import ChatServer.ChatRefinement
import ChatServer.Process

/-!
# The whole system

The layers on top of each other. The steps of the two threads are turns of the poll loop, these are
requests in the life of a server, and what the requests ask for are acts of the chat. Whatever the
interleaving, and however often the program is started again, the databases hold one chat.
-/

namespace ChatServer

open CLib

namespace Process

/-- The life that the databases have had. -/
abbrev life (as : List Action) : List LifeEvent := Run.trace Process.step lifeEvents initial as

/-- The cache is no part of the chat. -/
theorem Lives.chat_eq {p : Process} {v : Server} (h : Lives p v) :
    p.server.state.chat = v.state.chat := by
  rw [h.databases]
  rfl

/-- In every interleaving of the threads of one process after the other, if the requests are orderly
then the acts that they ask for are permitted one after the other, the databases hold the chat that
has performed them, it is coherent, and what an earlier process left of it has only grown. -/
theorem process_refines_chat (as as' : List Action)
    (has : Run.Along Process.step NewDescriptors initial (as ++ as'))
    (horderly : Life.Along Orderly Life.initial (life (as ++ as'))) :
    Chat.empty.Allows (lifeActs (life (as ++ as'))) ∧
    (initial.run (as ++ as')).server.state.chat =
      Chat.empty.performs (lifeActs (life (as ++ as'))) ∧
    (initial.run (as ++ as')).server.state.chat.Coherent ∧
    (initial.run as).server.state.chat.Grows (initial.run (as ++ as')).server.state.chat := by
  have hfirst := (Run.along_append.mp has).1
  have hlived : ∀ bs, Run.Along Process.step NewDescriptors initial bs →
      (initial.run bs).server.state.chat = (Life.run (life bs)).state.chat :=
    fun bs hbs => (Lives.run safe_initial lives_initial hbs).chat_eq
  rw [hlived _ has, hlived _ hfirst]
  have hsplit : life (as ++ as') =
      life as ++ Run.trace Process.step lifeEvents (initial.run as) as' :=
    Run.trace_append lifeEvents initial as as'
  obtain ⟨⟨hallows, hchat⟩, hin⟩ := InOrder.run inOrder_fresh horderly
  have hempty : Life.initial.state.chat = Chat.empty := chat_fresh
  rw [hempty] at hallows hchat
  refine ⟨hallows, hchat, hin.coherent, ?_⟩
  -- from where the earlier processes stopped
  rw [hsplit] at horderly ⊢
  obtain ⟨hbefore, hafter⟩ := Run.along_append.mp horderly
  obtain ⟨hdoes, _⟩ := InOrder.run (InOrder.run inOrder_fresh hbefore).2 hafter
  have hrun : Life.run (life as ++ Run.trace Process.step lifeEvents (initial.run as) as') =
      Run.run Life.step (Life.run (life as))
        (Run.trace Process.step lifeEvents (initial.run as) as') := Run.run_append ..
  rw [hrun, hdoes.2]
  exact .performs hdoes.1

/-- The server is started, and a client connects. -/
def connectedActions : List Action :=
  [.launch, .main .enter, .main .other, serverStep idleTurn, serverStep idleTurn,
    serverStep ⟨some (pollin, fun _ => 0), some (5, Client.address "10.0.0.1"), fun _ => [],
      fun _ => Client.firstEnv⟩]

/-- The client creates an account while the key that stops the server is pressed. -/
def stoppedActions : List Action :=
  [serverStep idleTurn, .main .quit,
    serverStep ⟨some (0, fun _ => pollin), none,
      fun _ => Client.dispatch 1 1 ["bobt", "bob", "pw"],
      fun _ => Client.env "22222222-2222-2222-2222-222222222222"⟩, .main .other]

theorem process_refines_chat_stopped :
    Chat.empty.Allows (lifeActs (life (connectedActions ++ stoppedActions))) ∧
    (initial.run (connectedActions ++ stoppedActions)).server.state.chat =
      Chat.empty.performs (lifeActs (life (connectedActions ++ stoppedActions))) ∧
    (initial.run (connectedActions ++ stoppedActions)).server.state.chat.Coherent ∧
    (initial.run connectedActions).server.state.chat.Grows
      (initial.run (connectedActions ++ stoppedActions)).server.state.chat :=
  process_refines_chat connectedActions stoppedActions (by decide +kernel) (by decide +kernel)

end Process

end ChatServer
