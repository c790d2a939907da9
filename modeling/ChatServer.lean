import ChatServer.Invariant.ChannelNames
import ChatServer.Invariant.Identity
import ChatServer.Invariant.Privilege
import ChatServer.Invariant.Sessions
import ChatServer.Invariant.References
import ChatServer.Framing
import ChatServer.Answer
import ChatServer.PollLoop
import ChatServer.Invariant.PollSlots
import ChatServer.Invariant.Descriptors
import ChatServer.Invariant.ChannelHistory
import ChatServer.ChannelEncoding
import ChatServer.Invariant.Accounts
import ChatServer.MessageLog
import ChatServer.MessageHistory
import ChatServer.StartUp
import ChatServer.LoginLogout
import ChatServer.Absent
import ChatServer.Malformed
import ChatServer.Lib.Buffer
import ChatServer.Lib.Program
import ChatServer.Wrappers
import ChatServer.WrapperRefinement
import ChatServer.UserRequests
import ChatServer.Authority
import ChatServer.ChannelUpdate
import ChatServer.Members
import ChatServer.UpdateGrammar
import ChatServer.DbmCalls
import ChatServer.StorageFailure
import ChatServer.ChannelCreation
import ChatServer.FanOut
import ChatServer.Invariant.CStrings
import ChatServer.Invariant.Strings
import ChatServer.Machine.Agreement
import ChatServer.Machine.Handlers
import ChatServer.Machine.Memory
import ChatServer.Machine.Requests
import ChatServer.Machine.Runs
import ChatServer.LoginRequests
import ChatServer.Limits
import ChatServer.CacheMemory
import ChatServer.ReplyLists
import ChatServer.Lib.Block
import ChatServer.CacheCapacity
import ChatServer.ArrayWrites
import ChatServer.ArrayBounds
import ChatServer.CompareStrings
import ChatServer.Lib.Simulation
import ChatServer.ServerLoop
import ChatServer.Process
import ChatServer.Broadcast
import ChatServer.Secrecy
import ChatServer.Journal
import ChatServer.Survival
import ChatServer.Credentials
import ChatServer.Chat
import ChatServer.ChatRefinement
import ChatServer.Portability
import ChatServer.Lib.Numeral
import ChatServer.Lib.Table
import ChatServer.Viewer
import ChatServer.DbViewer
import ChatServer.CommandLine
import ChatServer.MockClient
import ChatServer.System
import ChatServer.Lib.Ledger
import ChatServer.Resources
import ChatServer.Leaks
import ChatServer.ResourceLife
import ChatServer.HandlerRefinement
import ChatServer.HostRefinement
