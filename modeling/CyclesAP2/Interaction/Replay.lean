import CyclesAP2.Interaction.Idempotency
import CyclesAP2.Interaction.Network

/-!
# Programs that share a server with idempotency keys

What the records of the server say about the programs that talk to it, and the
other way round, in every network that some interleaving with some losses leads
to.

Every record was made for a request that some program sent (`recordsSent`), and
every answer that a program saw is explained by the records (`explained`).  So two
telling answers under one key are the same answer to the same request (`agree`):
for each key the server decides once, for everybody.

From a network on that loses nothing any more, a request on record is answered from
its record (`answered`), and programs that make such requests only leave the server as
it is (`unchanged`).
-/

namespace Interaction

variable {ι κ W Q R A α : Type}

namespace Protocol

variable [DecidableEq κ] {protocol : Protocol κ Q R W} {l l' : Ledger κ Q R W} {q : Q} {r : R}

/-- A record is an old one or the one made for this request, when it was applied. -/
theorem Serves.recorded_new (h : protocol.Serves l q r l') {k : κ} {q' : Q} {r' : R}
    (hrecorded : l'.recorded k = some (q', r')) :
    l.recorded k = some (q', r') ∨
      k = protocol.key q ∧ q' = q ∧ r' = r ∧ protocol.applies l.world q r l'.world := by
  cases h with
  | first hunseen happlies =>
    dsimp only at hrecorded
    by_cases hk : k = protocol.key q
    · subst hk
      rw [record_self] at hrecorded
      cases hrecorded
      exact Or.inr ⟨rfl, rfl, rfl, happlies⟩
    · rw [record_of_ne _ _ _ hk] at hrecorded
      exact Or.inl hrecorded
  | refused hunseen hrefuses => exact Or.inl hrecorded
  | replay hseen => exact Or.inl hrecorded
  | mismatch hseen hne hmismatch => exact Or.inl hrecorded

/-- A request on record is answered from its record. -/
theorem Serves.of_recorded (h : protocol.Serves l q r l') {r' : R}
    (hrecorded : l.recorded (protocol.key q) = some (q, r')) : r = r' ∧ l' = l := by
  cases h with
  | first hunseen happlies =>
    rw [hunseen] at hrecorded
    cases hrecorded
  | refused hunseen hrefuses =>
    rw [hunseen] at hrecorded
    cases hrecorded
  | replay hseen =>
    rw [hseen] at hrecorded
    cases hrecorded
    exact ⟨rfl, rfl⟩
  | mismatch hseen hne hmismatch =>
    rw [hseen] at hrecorded
    cases hrecorded
    exact absurd rfl hne

/-- What holds of the world and of each record: applying a request makes it hold of the
    new record, and keeps it for the old ones. -/
structure Establishes (protocol : Protocol κ Q R W) (Holds : W → Q → R → Prop) : Prop where
  made : ∀ {w q r w'}, protocol.applies w q r w' → Holds w' q r
  kept : ∀ {w q r w' q' r'}, protocol.applies w q r w' → Holds w q' r' → Holds w' q' r'

theorem Serves.established {Holds : W → Q → R → Prop} (hholds : protocol.Establishes Holds)
    (hserves : protocol.Serves l q r l')
    (h : ∀ k q r, l.recorded k = some (q, r) → Holds l.world q r) {k : κ} {q' : Q} {r' : R}
    (hrecorded : l'.recorded k = some (q', r')) : Holds l'.world q' r' := by
  rcases hserves.recorded_new hrecorded with hold | ⟨rfl, rfl, rfl, happlies⟩
  · cases hserves with
    | first hunseen happlies => exact hholds.kept happlies (h k q' r' hold)
    | refused hunseen hrefuses => exact h k q' r' hold
    | replay hseen => exact h k q' r' hold
    | mismatch hseen hne hmismatch => exact h k q' r' hold
  · exact hholds.made happlies

/-- Whatever a server of the one protocol does, a server of the other may do. -/
structure Refines (protocol protocol' : Protocol κ Q R W) : Prop where
  key : protocol'.key = protocol.key
  applies : ∀ {w q r w'}, protocol.applies w q r w' → protocol'.applies w q r w'
  refuses : ∀ {q r}, protocol.refuses q r → protocol'.refuses q r
  mismatch : ∀ {r}, protocol.mismatch r → protocol'.mismatch r

theorem Refines.serves {protocol' : Protocol κ Q R W} (h : protocol.Refines protocol')
    (hserves : protocol.Serves l q r l') : protocol'.Serves l q r l' := by
  obtain ⟨key', applies', refuses', mismatch'⟩ := protocol'
  obtain ⟨rfl, happlies, hrefuses, hmismatch⟩ := h
  cases hserves with
  | first hunseen happlied => exact .first hunseen (happlies happlied)
  | refused hunseen hrefused => exact .refused hunseen (hrefuses hrefused)
  | replay hseen => exact .replay hseen
  | mismatch hseen hne hmismatched => exact .mismatch hseen hne (hmismatch hmismatched)

/-- Why a program saw this answer to this request. -/
inductive Explained (protocol : Protocol κ Q R W) (unheard : R → Prop) (l : Ledger κ Q R W)
    (q : Q) (r : R) : Prop where
  | recorded (hrecorded : l.recorded (protocol.key q) = some (q, r))
  | lost (hunheard : unheard r)
  | refused (hrefuses : protocol.refuses q r)
  | mismatch {q' : Q} {r' : R} (hmismatch : protocol.mismatch r)
      (hrecorded : l.recorded (protocol.key q) = some (q', r')) (hne : q' ≠ q)

theorem Serves.explained (h : protocol.Serves l q r l') (unheard : R → Prop) :
    protocol.Explained unheard l' q r := by
  cases h with
  | first hunseen happlies => exact .recorded (record_self ..)
  | refused hunseen hrefuses => exact .refused hrefuses
  | replay hseen => exact .recorded hseen
  | mismatch hseen hne hmismatch => exact .mismatch hmismatch hseen hne

/-- An explanation stays one. -/
theorem Explained.serves {unheard : R → Prop} {q' : Q} {r' : R}
    (h : protocol.Explained unheard l q' r') (hserves : protocol.Serves l q r l') :
    protocol.Explained unheard l' q' r' := by
  cases h with
  | recorded hrecorded => exact .recorded (hserves.recorded_mono hrecorded)
  | lost hunheard => exact .lost hunheard
  | refused hrefuses => exact .refused hrefuses
  | mismatch hmismatch hrecorded hne =>
    exact .mismatch hmismatch (hserves.recorded_mono hrecorded) hne

end Protocol

namespace Network

variable {σ : Type} [DecidableEq ι]

/-! ### More servers, more losses -/

theorem Step.mono {serve serve' : σ → Q → R → σ → Prop} {unheard unheard' : R → Prop}
    (hserve : ∀ {server q r server'}, serve server q r server' → serve' server q r server')
    (hunheard : ∀ {r}, unheard r → unheard' r) {s s' : Network ι σ Q R A α}
    (h : Step serve unheard s s') : Step serve' unheard' s s' := by
  cases h with
  | exchange hcall hserves => exact .exchange hcall (hserve hserves)
  | lostReply hcall hserves hlost => exact .lostReply hcall (hserve hserves) (hunheard hlost)
  | lostRequest hcall hlost => exact .lostRequest hcall (hunheard hlost)
  | act hact => exact .act hact

theorem Reachable.mono {serve serve' : σ → Q → R → σ → Prop} {unheard unheard' : R → Prop}
    (hserve : ∀ {server q r server'}, serve server q r server' → serve' server q r server')
    (hunheard : ∀ {r}, unheard r → unheard' r) {server : σ} {programs : ι → Program Q R A α}
    {s : Network ι σ Q R A α} (h : Reachable serve unheard server programs s) :
    Reachable serve' unheard' server programs s :=
  Relation.ReflTransGen.mono (fun _ _ => Step.mono hserve hunheard) _ _ h

theorem requests_advance (s : Network ι σ Q R A α) (i : ι) (server : σ) (event : Event Q R A)
    (rest : Program Q R A α) {j : ι} {q : Q}
    (h : q ∈ requests (s.trails j)) :
    q ∈ requests ((s.advance i server event rest).trails j) :=
  ((advance_trails_grow s i server event rest j).filterMap Event.request?).subset h

theorem requests_advance_self (s : Network ι σ Q R A α) (i : ι) (server : σ) (q : Q) (r : R)
    (rest : Program Q R A α) :
    q ∈ requests ((s.advance i server (.exchange q r) rest).trails i) := by
  rw [advance_trails_self]
  exact mem_requests_iff.mpr ⟨r, List.mem_append_right _ (List.mem_singleton.mpr rfl)⟩

variable [DecidableEq κ] {protocol : Protocol κ Q R W} {unheard : R → Prop}
  {programs : ι → Program Q R A α} {s s' : Network ι (Ledger κ Q R W) Q R A α}

/-! ### Records and requests -/

/-- Every record was made for a request under its key that some program sent. -/
def RecordsSent (protocol : Protocol κ Q R W) (s : Network ι (Ledger κ Q R W) Q R A α) : Prop :=
  ∀ k q r, s.server.recorded k = some (q, r) →
    protocol.key q = k ∧ ∃ i, q ∈ requests (s.trails i)

/-- A request that the server handled, whether or not its reply arrived. -/
theorem RecordsSent.handled (h : RecordsSent protocol s) {q : Q} {r r' : R}
    {server : Ledger κ Q R W} (hserves : protocol.Serves s.server q r server) (i : ι)
    (rest : Program Q R A α) : RecordsSent protocol (s.advance i server (.exchange q r') rest) := by
  intro k q' r'' hrecorded
  rcases hserves.recorded_new hrecorded with hold | ⟨rfl, rfl, rfl, _⟩
  · obtain ⟨hkey, j, hsent⟩ := h k q' r'' hold
    exact ⟨hkey, j, requests_advance s i server _ rest hsent⟩
  · exact ⟨rfl, i, requests_advance_self s i server q' r' rest⟩

theorem Step.recordsSent (hstep : Step protocol.Serves unheard s s')
    (h : RecordsSent protocol s) : RecordsSent protocol s' := by
  cases hstep with
  | exchange hcall hserves => exact h.handled hserves _ _
  | lostReply hcall hserves hlost => exact h.handled hserves _ _
  | lostRequest hcall hlost =>
    intro k q' r' hrecorded
    obtain ⟨hkey, j, hsent⟩ := h k q' r' hrecorded
    exact ⟨hkey, j, requests_advance s _ _ _ _ hsent⟩
  | act hact =>
    intro k q' r' hrecorded
    obtain ⟨hkey, j, hsent⟩ := h k q' r' hrecorded
    exact ⟨hkey, j, requests_advance s _ _ _ _ hsent⟩

/-- **Nothing is on record that nobody sent.** -/
theorem Reachable.recordsSent {l : Ledger κ Q R W} (hempty : ∀ k, l.recorded k = none)
    (h : Reachable protocol.Serves unheard l programs s) : RecordsSent protocol s := by
  induction h with
  | refl =>
    intro k q r hrecorded
    rw [start, hempty] at hrecorded
    cases hrecorded
  | tail _ hstep ih => exact hstep.recordsSent ih

/-- **What applying establishes holds of every record.** -/
theorem Reachable.established {Holds : W → Q → R → Prop} (hholds : protocol.Establishes Holds)
    {l : Ledger κ Q R W} (hempty : ∀ k, l.recorded k = none)
    (h : Reachable protocol.Serves unheard l programs s) {k : κ} {q : Q} {r : R}
    (hrecorded : s.server.recorded k = some (q, r)) : Holds s.server.world q r := by
  have hkeeps : Keeps protocol.Serves (fun _ => True)
      (fun l => ∀ k q r, l.recorded k = some (q, r) → Holds l.world q r) (fun _ _ _ => True) := {
    inv := fun hestablished _ hserves _ _ _ => hserves.established hholds hestablished
    seen := fun _ _ _ => trivial
    stable := fun _ _ _ _ => trivial }
  refine (Reachable.invariant hkeeps (fun _ => trivial) (fun _ _ _ _ _ => trivial) ?_ h).1 k q r
    hrecorded
  intro k q r hrecorded
  rw [hempty] at hrecorded
  cases hrecorded

/-! ### Records and answers -/

/-- **Every answer that was seen is explained by the records.** -/
theorem Reachable.explained {l : Ledger κ Q R W}
    (h : Reachable protocol.Serves unheard l programs s) {i : ι} {q : Q} {r : R}
    (hseen : Event.exchange q r ∈ s.trails i) : protocol.Explained unheard s.server q r := by
  have hkeeps : Keeps protocol.Serves (fun _ => True) (fun _ => True)
      (protocol.Explained unheard) := {
    inv := fun _ _ _ => trivial
    seen := fun _ _ hserves => hserves.explained unheard
    stable := fun _ _ hserves hexplained => hexplained.serves hserves }
  exact (Reachable.invariant hkeeps .lost (fun _ _ _ _ _ => trivial) trivial h).2 i q r hseen

/-- Answers that say nothing about what is on record: those of a lost message, of a
    failed request and of a mismatch are among them. -/
structure Mute (protocol : Protocol κ Q R W) (unheard mute : R → Prop) : Prop where
  unheard : ∀ {r}, unheard r → mute r
  refuses : ∀ {q r}, protocol.refuses q r → mute r
  mismatch : ∀ {r}, protocol.mismatch r → mute r

variable {mute : R → Prop}

theorem Reachable.recorded_of_telling (hmute : Mute protocol unheard mute) {l : Ledger κ Q R W}
    (h : Reachable protocol.Serves unheard l programs s) {i : ι} {q : Q} {r : R}
    (hseen : Event.exchange q r ∈ s.trails i) (htelling : ¬mute r) :
    s.server.recorded (protocol.key q) = some (q, r) := by
  cases h.explained hseen with
  | recorded hrecorded => exact hrecorded
  | lost hunheard => exact absurd (hmute.unheard hunheard) htelling
  | refused hrefuses => exact absurd (hmute.refuses hrefuses) htelling
  | mismatch hmismatch hrecorded hne => exact absurd (hmute.mismatch hmismatch) htelling

/-- **For each key the server decides once**: two telling answers under one key are
    the same answer to the same request, whichever programs saw them. -/
theorem Reachable.agree (hmute : Mute protocol unheard mute) {l : Ledger κ Q R W}
    (h : Reachable protocol.Serves unheard l programs s) {i j : ι} {q q' : Q} {r r' : R}
    (hseen : Event.exchange q r ∈ s.trails i) (hseen' : Event.exchange q' r' ∈ s.trails j)
    (htelling : ¬mute r) (htelling' : ¬mute r') (hkey : protocol.key q = protocol.key q') :
    q = q' ∧ r = r' := by
  have hrecorded := h.recorded_of_telling hmute hseen htelling
  have hrecorded' := h.recorded_of_telling hmute hseen' htelling'
  rw [hkey, hrecorded'] at hrecorded
  cases hrecorded
  exact ⟨rfl, rfl⟩

/-! ### Replaying a program from the records -/

theorem Step.recorded_mono (hstep : Step protocol.Serves unheard s s') {k : κ} {entry : Q × R}
    (hentry : s.server.recorded k = some entry) : s'.server.recorded k = some entry := by
  cases hstep with
  | exchange hcall hserves => exact hserves.recorded_mono hentry
  | lostReply hcall hserves hlost => exact hserves.recorded_mono hentry
  | lostRequest hcall hlost => exact hentry
  | act hact => exact hentry

theorem recorded_mono (h : Relation.ReflTransGen (Step protocol.Serves unheard) s s') {k : κ}
    {entry : Q × R} (hentry : s.server.recorded k = some entry) :
    s'.server.recorded k = some entry := by
  induction h with
  | refl => exact hentry
  | tail _ hstep ih => exact hstep.recorded_mono ih

/-- Nothing gets lost on the way from `s` to `s'`. -/
def Lossless (protocol : Protocol κ Q R W) (s s' : Network ι (Ledger κ Q R W) Q R A α) : Prop :=
  Relation.ReflTransGen (Step protocol.Serves fun _ => False) s s'

/-- **What is on record is what is told**, as long as nothing gets lost. -/
theorem Lossless.answered (h : Lossless protocol s s') {q : Q} {r : R}
    (hrecorded : s.server.recorded (protocol.key q) = some (q, r)) {i : ι} {r' : R}
    (hseen : Event.exchange q r' ∈ s'.trails i) :
    Event.exchange q r' ∈ s.trails i ∨ r' = r := by
  induction h with
  | refl => exact Or.inl hseen
  | @tail between _ hbetween hstep ih =>
    have hstill : between.server.recorded (protocol.key q) = some (q, r) :=
      recorded_mono hbetween hrecorded
    cases hstep with
    | @exchange j q' next r'' server hcall hserves =>
      rcases (mem_advance_trails ..).mp hseen with hold | ⟨rfl, heq⟩
      · exact ih hold
      · cases heq
        exact Or.inr (hserves.of_recorded hstill).1
    | lostReply hcall hserves hlost => exact hlost.elim
    | lostRequest hcall hlost => exact hlost.elim
    | act hact =>
      rcases (mem_advance_trails ..).mp hseen with hold | ⟨_, heq⟩
      · exact ih hold
      · cases heq

/-- A program that, answered from the records of `l`, makes requests on record only. -/
def Replays (protocol : Protocol κ Q R W) (l : Ledger κ Q R W) : Program Q R A α → Prop
  | .done _ => True
  | .call q next =>
    ∃ r, l.recorded (protocol.key q) = some (q, r) ∧ Replays protocol l (next r)
  | .act _ rest => Replays protocol l rest

/-- **Programs that replay leave the server as it is**, when no other program moves and
    nothing gets lost. -/
theorem Lossless.unchanged {J : ι → Prop} (h : Lossless protocol s s')
    (hreplays : ∀ i, J i → Replays protocol s.server (s.procs i))
    (honly : ∀ i, ¬J i → s'.trails i = s.trails i) :
    s'.server = s.server ∧ ∀ i, J i → Replays protocol s.server (s'.procs i) := by
  induction h with
  | refl => exact ⟨rfl, hreplays⟩
  | @tail between after hbefore hstep ih =>
    -- a program outside of `J` would have left a trail
    have hstill : ∀ i, ¬J i →
        between.trails i = s.trails i ∧ after.trails i = between.trails i := by
      intro i hi
      have hlong := trails_grow (.single hstep) i
      rw [honly i hi] at hlong
      have hsame : s.trails i = between.trails i :=
        (trails_grow hbefore i).eq_of_length_le hlong.length_le
      exact ⟨hsame.symm, (honly i hi).trans hsame⟩
    have hmoves : ∀ {i event server rest}, after = between.advance i server event rest → J i := by
      rintro i event server rest rfl
      by_contra hi
      have hgrown := (hstill i hi).2
      rw [advance_trails_self] at hgrown
      simp at hgrown
    obtain ⟨hserver, hprocs⟩ := ih fun i hi => (hstill i hi).1
    have hkeeps : ∀ {i event server rest}, after = between.advance i server event rest →
        server = s.server → Replays protocol s.server rest →
        after.server = s.server ∧ ∀ j, J j → Replays protocol s.server (after.procs j) := by
      rintro i event server rest rfl rfl hrest
      refine ⟨rfl, ?_⟩
      intro j hj
      by_cases hji : j = i
      · subst hji
        rw [advance_procs_self]
        exact hrest
      · rw [advance_procs_of_ne _ _ _ _ _ hji]
        exact hprocs j hj
    cases hstep with
    | @exchange i q next r server hcall hserves =>
      have hproc := hprocs i (hmoves rfl)
      rw [hcall] at hproc
      obtain ⟨r', hrecorded, hnext⟩ := hproc
      rw [← hserver] at hrecorded
      obtain ⟨rfl, hsame⟩ := hserves.of_recorded hrecorded
      exact hkeeps rfl (hsame.trans hserver) hnext
    | lostReply hcall hserves hlost => exact hlost.elim
    | lostRequest hcall hlost => exact hlost.elim
    | @act i a rest hact =>
      have hproc := hprocs i (hmoves rfl)
      rw [hact] at hproc
      exact hkeeps rfl hserver hproc

/-- The next step of program `i`, whose request is served and whose reply is replaced
    on the way by `lost`. -/
def loseReplyAt (handle : σ → Q → R × σ) (lost : R) (s : Network ι σ Q R A α) (i : ι) :
    Network ι σ Q R A α :=
  match s.procs i with
  | .done _ => s
  | .call q next => s.advance i (handle s.server q).2 (.exchange q lost) (next lost)
  | .act a rest => s.advance i s.server (.act a) rest

theorem loseReplyAt_reachable {handle : σ → Q → R × σ} {serve : σ → Q → R → σ → Prop}
    (hserve : ∀ server q, serve server q (handle server q).1 (handle server q).2) {lost : R}
    (hlost : unheard lost) (s : Network ι σ Q R A α) (i : ι) :
    Relation.ReflTransGen (Step serve unheard) s (s.loseReplyAt handle lost i) := by
  unfold loseReplyAt
  rcases hproc : s.procs i with value | ⟨q, next⟩ | ⟨a, rest⟩
  · exact .refl
  · exact .single (.lostReply hproc (hserve s.server q) hlost)
  · exact .single (.act hproc)

/-- A run without losses is one of the runs with losses. -/
theorem Lossless.onward (h : Lossless protocol s s') (unheard : R → Prop) :
    Relation.ReflTransGen (Step protocol.Serves unheard) s s' :=
  Relation.ReflTransGen.mono (fun _ _ => Step.mono id False.elim) _ _ h

end Network

end Interaction
