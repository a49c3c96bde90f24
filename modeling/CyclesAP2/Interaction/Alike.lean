import CyclesAP2.Interaction.Contract
import CyclesAP2.Interaction.Network

/-!
# Programs that are alike

Two programs are alike, for the replies that are `allowed`, when they issue the same
requests, perform the same actions and return the same values for as long as every reply
is an allowed one.  What they do after another reply is up to each of them.

Methods that are made of alike parts are alike (`Method.Alike`).  A network is simulated
by every network of programs alike to its own, against any server: each step of the one
is a step of the other (`Network.Step.alike`), and so is each run (`Network.Reachable.alike`).
-/

namespace Interaction

variable {Q R A S E α β γ : Type}

namespace Program

inductive Alike (allowed : Q → R → Prop) : Program Q R A α → Program Q R A α → Prop where
  | done (value : α) : Alike allowed (.done value) (.done value)
  | call {q : Q} {next next' : R → Program Q R A α}
      (h : ∀ r, allowed q r → Alike allowed (next r) (next' r)) :
      Alike allowed (.call q next) (.call q next')
  | act {a : A} {rest rest' : Program Q R A α} (h : Alike allowed rest rest') :
      Alike allowed (.act a rest) (.act a rest')

variable {allowed : Q → R → Prop} {p p' : Program Q R A α}

theorem Alike.refl (p : Program Q R A α) : Alike allowed p p := by
  induction p with
  | done value => exact .done value
  | call q next ih => exact .call fun r _ => ih r
  | act a rest ih => exact .act ih

theorem Alike.symm (h : Alike allowed p p') : Alike allowed p' p := by
  induction h with
  | done value => exact .done value
  | call _ ih => exact .call ih
  | act _ ih => exact .act ih

theorem Alike.bind {next next' : α → Program Q R A β} (h : Alike allowed p p')
    (hnext : ∀ value, Alike allowed (next value) (next' value)) :
    Alike allowed (p >>= next) (p' >>= next') := by
  induction h with
  | done value => exact hnext value
  | call _ ih => exact .call ih
  | act _ ih => exact .act ih

theorem Alike.done_iff (h : Alike allowed p p') {value : α} :
    p = .done value ↔ p' = .done value := by
  cases h with
  | done value' => exact Iff.rfl
  | call _ => simp
  | act _ => simp

end Program

/-! ### Methods -/

namespace Method

def Alike (allowed : Q → R → Prop) (m m' : Method Q R A S E α) : Prop :=
  ∀ s, Program.Alike allowed (m s) (m' s)

variable {allowed : Q → R → Prop}

theorem Alike.refl (m : Method Q R A S E α) : Alike allowed m m :=
  fun s => .refl (m s)

theorem Alike.symm {m m' : Method Q R A S E α} (h : Alike allowed m m') : Alike allowed m' m :=
  fun s => (h s).symm

theorem Alike.bind {m m' : Method Q R A S E α} {next next' : α → Method Q R A S E β}
    (h : Alike allowed m m') (hnext : ∀ value, Alike allowed (next value) (next' value)) :
    Alike allowed (m >>= next) (m' >>= next') := by
  intro s
  rw [bind_apply, bind_apply]
  refine (h s).bind ?_
  rintro ⟨e | value, s'⟩
  · exact .done _
  · exact hnext value s'

/-- After a request, only the allowed replies matter. -/
theorem Alike.request {q : Q} {next next' : R → Method Q R A S E α}
    (h : ∀ r, allowed q r → Alike allowed (next r) (next' r)) :
    Alike allowed (request q >>= next) (request q >>= next') := by
  intro s
  rw [bind_apply, bind_apply, request_apply]
  exact .call fun r hr => h r hr s

theorem Alike.attempt {block block' : Method Q R A S E Unit} (h : Alike allowed block block') :
    Alike allowed (attempt block) (attempt block') := by
  intro s
  rw [attempt_apply, attempt_apply]
  exact (h s).bind fun result => .refl _

theorem Alike.afterBlock {exit exit' : Option E → Method Q R A S E Unit}
    (h : ∀ e, Alike allowed (exit e) (exit' e)) (result : Except E Unit) :
    Alike allowed (afterBlock exit result) (afterBlock exit' result) := by
  rcases result with e | _
  · exact (h (some e)).bind fun _ => .refl _
  · exact h none

/-- Statements whose block is the same are alike when what they enter and exit by is. -/
theorem Alike.withBlock {enter enter' started body : Method Q R A S E Unit}
    {exit exit' : Option E → Method Q R A S E Unit} (henter : Alike allowed enter enter')
    (hexit : ∀ e, Alike allowed (exit e) (exit' e)) :
    Alike allowed (withBlock enter started body exit) (withBlock enter' started body exit') :=
  henter.bind fun _ => (Alike.refl started).bind fun _ => (Alike.refl _).bind (.afterBlock hexit)

theorem Alike.each {step step' : γ → Method Q R A S E Unit}
    (h : ∀ x, Alike allowed (step x) (step' x)) (xs : List γ) :
    Alike allowed (each step xs) (each step' xs) := by
  induction xs with
  | nil => exact .refl _
  | cons x xs ih => exact (h x).attempt.bind fun _ => ih.bind fun _ => .refl _

end Method

/-! ### Networks -/

namespace Network

variable {ι σ : Type} [DecidableEq ι] {allowed : Q → R → Prop} {serve : σ → Q → R → σ → Prop}
  {unheard : R → Prop} {s s' t : Network ι σ Q R A α}

/-- Every reply that was seen is an allowed one. -/
def Allowed (allowed : Q → R → Prop) (s : Network ι σ Q R A α) : Prop :=
  ∀ i q r, Event.exchange q r ∈ s.trails i → allowed q r

structure Alike (allowed : Q → R → Prop) (s s' : Network ι σ Q R A α) : Prop where
  server : s'.server = s.server
  trails : s'.trails = s.trails
  procs : ∀ i, Program.Alike allowed (s.procs i) (s'.procs i)

/-- The same program steps in both networks. -/
theorem Alike.advance (h : s.Alike allowed s') (i : ι) (server : σ) (event : Event Q R A)
    {rest rest' : Program Q R A α} (hrest : Program.Alike allowed rest rest') :
    (s.advance i server event rest).Alike allowed (s'.advance i server event rest') := by
  refine ⟨rfl, ?_, ?_⟩
  · unfold Network.advance
    rw [h.trails]
  · intro j
    by_cases hj : j = i
    · subst hj
      rw [advance_procs_self, advance_procs_self]
      exact hrest
    · rw [advance_procs_of_ne _ _ _ _ _ hj, advance_procs_of_ne _ _ _ _ _ hj]
      exact h.procs j

theorem Allowed.before (h : t.Allowed allowed) (hstep : Step serve unheard s t) :
    s.Allowed allowed :=
  fun i q r hseen => h i q r ((trails_grow (.single hstep) i).subset hseen)

/-- **Every step is simulated**, as long as the reply it brings is an allowed one. -/
theorem Step.alike (hstep : Step serve unheard s t) (halike : s.Alike allowed s')
    (h : t.Allowed allowed) : ∃ t', Step serve unheard s' t' ∧ t.Alike allowed t' := by
  have hcalls : ∀ {i q next}, s.procs i = .call q next →
      ∃ next', s'.procs i = .call q next' ∧
        ∀ r, allowed q r → Program.Alike allowed (next r) (next' r) := by
    intro i q next hcall
    have hproc := halike.procs i
    rw [hcall] at hproc
    generalize hproc' : s'.procs i = p' at hproc
    cases hproc with
    | call hnext => exact ⟨_, rfl, hnext⟩
  cases hstep with
  | @exchange i q next r server hcall hserve =>
    obtain ⟨next', hcall', hnext⟩ := hcalls hcall
    refine ⟨_, .exchange hcall' (halike.server ▸ hserve), halike.advance i server _ (hnext r ?_)⟩
    exact h i q r (by simp)
  | @lostReply i q next r r' server hcall hserve hunheard =>
    obtain ⟨next', hcall', hnext⟩ := hcalls hcall
    refine ⟨_, .lostReply hcall' (halike.server ▸ hserve) hunheard,
      halike.advance i server _ (hnext r' ?_)⟩
    exact h i q r' (by simp)
  | @lostRequest i q next r' hcall hunheard =>
    obtain ⟨next', hcall', hnext⟩ := hcalls hcall
    refine ⟨_, .lostRequest hcall' hunheard, ?_⟩
    rw [halike.server]
    exact halike.advance i s.server _ (hnext r' (h i q r' (by simp)))
  | @act i a rest hact =>
    have hproc := halike.procs i
    rw [hact] at hproc
    generalize hproc' : s'.procs i = p' at hproc
    cases hproc with
    | act hrest =>
      refine ⟨_, .act hproc', ?_⟩
      rw [halike.server]
      exact halike.advance i s.server _ hrest

/-- **Every run is simulated**, as long as the replies that are seen are allowed ones. -/
theorem Reachable.alike {server : σ} {programs programs' : ι → Program Q R A α}
    (halike : ∀ i, Program.Alike allowed (programs i) (programs' i))
    (hreach : Reachable serve unheard server programs s) (h : s.Allowed allowed) :
    ∃ s', Reachable serve unheard server programs' s' ∧ s.Alike allowed s' := by
  induction hreach with
  | refl => exact ⟨_, .refl, rfl, rfl, halike⟩
  | tail _ hstep ih =>
    obtain ⟨s', hreach', hsame⟩ := ih (h.before hstep)
    obtain ⟨t', hstep', hsame'⟩ := hstep.alike hsame h
    exact ⟨t', hreach'.tail hstep', hsame'⟩

end Network

end Interaction
