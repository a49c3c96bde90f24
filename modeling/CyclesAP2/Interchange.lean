import CyclesAP2.Interaction.Alike
import CyclesAP2.Reuse

/-!
# Either class will do

`GuardedPayment` and `AsyncGuardedPayment` are two classes, and they differ in what they
make of a cancelled commit and in nothing else.  So it does not matter which callers use
which class: any number of guards, each used as often as its caller likes, come to the
same networks with either class, at any server, as long as nothing is cancelled
(`classes_interchangeable`).
-/

namespace CyclesAP2

open Interaction

/-- The reply is not a cancellation. -/
def Uncancelled (_ : Request) (outcome : Outcome) : Prop :=
  ∀ exc, outcome = .raised exc → exc.isCancelled = false

/-! ### The methods of the two classes -/

section Methods

variable (py : Python) (clock : Int)

theorem handleCommit_alike :
    Method.Alike Uncancelled (GuardedPayment.handleCommit py clock)
      (AsyncGuardedPayment.handleCommit py clock) := by
  refine Method.Alike.bind (.refl get) fun self => ?_
  rcases self.reservationId with _ | reservationId
  · exact .refl _
  · refine Method.Alike.bind (.refl _) fun body => .request fun outcome huncancelled => ?_
    rcases outcome with response | exc
    · exact .refl _
    · have hcancelled : ¬exc.isCancelled = true := by simp [huncancelled exc rfl]
      dsimp only
      rw [if_neg hcancelled]
      exact .refl _

theorem exit_alike (exc : Option PyExc) :
    Method.Alike Uncancelled (GuardedPayment.exit py clock exc)
      (AsyncGuardedPayment.aexit py clock exc) := by
  refine Method.Alike.bind (.refl get) fun self => ?_
  by_cases hnone : self.reservationId.isNone = true
  · rw [if_pos hnone, if_pos hnone]
    exact .refl _
  · rw [if_neg hnone, if_neg hnone]
    rcases exc with _ | e
    · rcases self.abortedReason with _ | reason
      · exact handleCommit_alike py clock
      · exact .refl _
    · exact .refl _

theorem withStatement_alike (flavour flavour' : Flavour) (body : Body) :
    Method.Alike Uncancelled (withStatement py clock flavour body)
      (withStatement py clock flavour' body) := by
  have hasync : Method.Alike Uncancelled (withStatement py clock .sync body)
      (withStatement py clock .async body) := .withBlock (.refl _) (exit_alike py clock)
  cases flavour with
  | sync =>
    cases flavour' with
    | sync => exact .refl _
    | async => exact hasync
  | async =>
    cases flavour' with
    | sync => exact hasync.symm
    | async => exact .refl _

theorem Use.run_alike (flavour flavour' : Flavour) (use : Use) :
    Method.Alike Uncancelled (use.run py flavour) (use.run py flavour') := by
  cases use with
  | within clock body => exact withStatement_alike py clock flavour flavour' body
  | outside call =>
    intro self
    rw [Use.outside_apply, Use.outside_apply]
    exact .refl _

end Methods

/-! ### Networks -/

/-- The same guard, used in the same way, of whichever class. -/
def Client.SameUse (client client' : Client) : Prop :=
  client.args = client'.args ∧ client.uses = client'.uses

theorem Client.SameUse.alike {client client' : Client} (h : client.SameUse client') (py : Python) :
    Program.Alike Uncancelled (client.program py) (client'.program py) := by
  obtain ⟨hargs, huses⟩ := h
  unfold Client.program runUses
  rw [hargs, huses]
  exact Method.Alike.each (Use.run_alike py _ _) _ _

section Networks

variable {ι τ : Type} [DecidableEq ι] {py : Python} {clients clients' : ι → Client}
  {serve : τ → Request → Outcome → τ → Prop} {unheard : Outcome → Prop} {server : τ}

/-- **Either class will do.**  Whatever guards come to in a network in which nothing is
    cancelled, they come to with any other choice of their classes as well: the same
    requests, actions and replies, the same server, and the same results. -/
theorem classes_interchangeable (hsame : ∀ i, (clients i).SameUse (clients' i))
    {s : Network ι τ Request Outcome Mark (Except PyExc (List (Except PyExc Unit)) × GuardState)}
    (h : Network.Reachable serve unheard server (fun i => (clients i).program py) s)
    (huncancelled : s.Allowed Uncancelled) :
    ∃ s', Network.Reachable serve unheard server (fun i => (clients' i).program py) s' ∧
      s'.server = s.server ∧ s'.trails = s.trails ∧
      ∀ i result, s.procs i = .done result ↔ s'.procs i = .done result := by
  obtain ⟨s', hreach, halike⟩ :=
    Network.Reachable.alike (fun i => (hsame i).alike py) h huncancelled
  exact ⟨s', hreach, halike.server, halike.trails, fun i result => (halike.procs i).done_iff⟩

end Networks

/-- The guards of `usedTwice`, each of the other class. -/
def exchanged (second : Bool) : Client :=
  { usedTwice second with flavour := if second then .sync else .async }

/-- A server that always answers alike. -/
def answering (_ : Unit) (request : Request) (outcome : Outcome) (_ : Unit) : Prop :=
  outcome = Answers.sample.reply request

theorem classes_interchangeable_exchanged :
    let s := (Network.start () fun i => (usedTwice i).program .sample).play
      (fun server request => (Answers.sample.reply request, server))
      [false, true, false, true, true, false, false]
    ∃ s', Network.Reachable answering (fun _ => False) () (fun i => (exchanged i).program .sample)
        s' ∧
      s'.trails = s.trails := by
  intro s
  have hreach : Network.Reachable answering (fun _ => False) ()
      (fun i => (usedTwice i).program .sample) s := Network.play_reachable (fun _ _ => rfl) _ _
  have hkeeps : Network.Keeps answering (fun _ => True) (fun _ => True)
      (fun _ => Uncancelled) := {
    inv := fun _ _ _ => trivial
    seen := by
      rintro _ request _ _ _ _ rfl exc heq
      cases request <;> cases heq
    stable := fun _ _ _ hseen => hseen }
  have hseen := (Network.Reachable.invariant hkeeps False.elim (fun _ _ _ _ _ => trivial)
    trivial hreach).2
  have hsame : ∀ i, (usedTwice i).SameUse (exchanged i) := by
    intro i
    cases i <;> exact ⟨rfl, rfl⟩
  obtain ⟨s', hreach', _, htrails, _⟩ := classes_interchangeable hsame hreach hseen
  exact ⟨s', hreach', htrails⟩

end CyclesAP2
