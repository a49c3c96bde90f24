import CyclesAP2.Interaction.Method

/-!
# Contracts of methods

Pre- and postconditions of methods of an object that talks to a service.  Assertions
speak about the attributes of the object and about the trail, which is everything
observed of the object since it was made.  A contract says two things of a method
started in its precondition, whatever the replies: the trail is `always` as it should
be, also while the method is on its way, and the postcondition holds when the method
returns or raises.

`Program.wp` is the weakest precondition of a program, `Program.wp_path` its meaning
on paths.  The rules for methods follow the way a method is written: sequencing, raising,
attributes, requests, catching, the context-manager protocol, and doing one thing after
another.
-/

namespace Interaction

variable {Q R A S E α β γ : Type}

namespace Program

variable {always : List (Event Q R A) → Prop}

/-- Whatever the replies, the trail is `always` as it should be and the value fulfils
    `post`. -/
def wp (always : List (Event Q R A) → Prop) (post : α → List (Event Q R A) → Prop) :
    Program Q R A α → List (Event Q R A) → Prop
  | .done value, trail => post value trail
  | .call q next, trail => ∀ r, always (trail ++ [.exchange q r]) ∧
      (next r).wp always post (trail ++ [.exchange q r])
  | .act a next, trail => always (trail ++ [.act a]) ∧ next.wp always post (trail ++ [.act a])

theorem wp_mono {post post' : α → List (Event Q R A) → Prop}
    (hpost : ∀ value trail, post value trail → post' value trail) {p : Program Q R A α}
    {trail : List (Event Q R A)} (h : p.wp always post trail) : p.wp always post' trail := by
  induction p generalizing trail with
  | done value => exact hpost value trail h
  | call q next ih =>
    intro r
    exact ⟨(h r).1, ih r (h r).2⟩
  | act a next ih => exact ⟨h.1, ih h.2⟩

theorem wp_bind {p : Program Q R A α} {next : α → Program Q R A β}
    {post : β → List (Event Q R A) → Prop} {trail : List (Event Q R A)} :
    (p >>= next).wp always post trail ↔
      p.wp always (fun value trail => (next value).wp always post trail) trail := by
  induction p generalizing trail with
  | done value => exact Iff.rfl
  | call q rest ih =>
    constructor
    · intro h r
      exact ⟨(h r).1, (ih r).mp (h r).2⟩
    · intro h r
      exact ⟨(h r).1, (ih r).mpr (h r).2⟩
  | act a rest ih => exact and_congr_right fun _ => ih

/-- **On every path the trail is as it should be**, and what is left of the program
    still ends as promised. -/
theorem wp_path {post : α → List (Event Q R A) → Prop} {p p' : Program Q R A α}
    {trail rest : List (Event Q R A)} (h : p.wp always post trail) (halways : always trail)
    (hpath : Path p rest p') : always (trail ++ rest) ∧ p'.wp always post (trail ++ rest) := by
  induction hpath generalizing trail with
  | here p =>
    rw [List.append_nil]
    exact ⟨halways, h⟩
  | exchange r hpath ih =>
    have hrest := ih (h r).2 (h r).1
    rwa [List.append_assoc] at hrest
  | act hpath ih =>
    have hrest := ih h.2 h.1
    rwa [List.append_assoc] at hrest

end Program

namespace Method

variable {always : List (Event Q R A) → Prop}

/-- What holds of the attributes and of the trail. -/
abbrev Assertion (Q R A S : Type) := S → List (Event Q R A) → Prop

/-- The weakest precondition of a method, for a postcondition on how it ended. -/
def wp (always : List (Event Q R A) → Prop) (post : Except E α → Assertion Q R A S)
    (m : Method Q R A S E α) : Assertion Q R A S :=
  fun s trail => (m s).wp always (fun result trail => post result.1 result.2 trail) trail

def Contract (always : List (Event Q R A) → Prop) (pre : Assertion Q R A S)
    (m : Method Q R A S E α) (post : Except E α → Assertion Q R A S) : Prop :=
  ∀ s trail, pre s trail → m.wp always post s trail

/-- What a contract means: on every path of the method the trail is as it should be, and
    the postcondition holds at its end. -/
theorem Contract.path {pre : Assertion Q R A S} {m : Method Q R A S E α}
    {post : Except E α → Assertion Q R A S} (h : Contract always pre m post) {s : S}
    {trail rest : List (Event Q R A)} (hpre : pre s trail) (halways : always trail)
    {p : Program Q R A (Except E α × S)} (hpath : Program.Path (m s) rest p) :
    always (trail ++ rest) ∧
      ∀ result s', p = .done (result, s') → post result s' (trail ++ rest) := by
  obtain ⟨htrail, hleft⟩ := Program.wp_path (h s trail hpre) halways hpath
  refine ⟨htrail, ?_⟩
  rintro result s' rfl
  exact hleft

/-! ### Sequencing -/

theorem wp_mono {post post' : Except E α → Assertion Q R A S}
    (hpost : ∀ result s trail, post result s trail → post' result s trail)
    {m : Method Q R A S E α} {s : S} {trail : List (Event Q R A)} (h : m.wp always post s trail) :
    m.wp always post' s trail := by
  refine Program.wp_mono ?_ h
  intro result trail
  exact hpost result.1 result.2 trail

/-- `between` of the value of a step that returned, and `post` of the exception of one
    that raised, since no other step follows it. -/
def onReturn (between : α → Assertion Q R A S) (post : Except E β → Assertion Q R A S) :
    Except E α → Assertion Q R A S
  | .ok value => between value
  | .error e => post (.error e)

theorem wp_bind {m : Method Q R A S E α} {next : α → Method Q R A S E β}
    {post : Except E β → Assertion Q R A S} {s : S} {trail : List (Event Q R A)} :
    (m >>= next).wp always post s trail ↔
      m.wp always (onReturn (fun value => (next value).wp always post) post) s trail := by
  unfold wp
  rw [bind_apply, Program.wp_bind]
  constructor
  · refine Program.wp_mono ?_
    rintro ⟨e | value, s'⟩ trail' h
    · exact h
    · exact h
  · refine Program.wp_mono ?_
    rintro ⟨e | value, s'⟩ trail' h
    · exact h
    · exact h

/-- One step after another. -/
theorem Contract.bind {pre : Assertion Q R A S} {m : Method Q R A S E α}
    {next : α → Method Q R A S E β} {post : Except E β → Assertion Q R A S}
    (between : α → Assertion Q R A S)
    (hm : Contract always pre m (onReturn between post))
    (hnext : ∀ value, Contract always (between value) (next value) post) :
    Contract always pre (m >>= next) post := by
  intro s trail hpre
  refine wp_bind.mpr (wp_mono ?_ (hm s trail hpre))
  rintro (e | value) s' trail' h
  · exact h
  · exact hnext value s' trail' h

theorem Contract.weaken {pre pre' : Assertion Q R A S} {m : Method Q R A S E α}
    {post post' : Except E α → Assertion Q R A S} (h : Contract always pre m post)
    (hpre : ∀ s trail, pre' s trail → pre s trail)
    (hpost : ∀ result s trail, post result s trail → post' result s trail) :
    Contract always pre' m post' :=
  fun s trail h' => wp_mono hpost (h s trail (hpre s trail h'))

/-! ### Catching, and the context-manager protocol -/

/-- A block whose exception is caught fulfils its contract with the exception as a
    value. -/
theorem Contract.attempt {pre : Assertion Q R A S} {block : Method Q R A S E Unit}
    {post : Except E Unit → Assertion Q R A S} (h : Contract always pre block post) :
    Contract always pre (attempt block) fun result s trail =>
      ∃ left, result = .ok left ∧ post left s trail := by
  intro s trail hpre
  unfold wp
  rw [attempt_apply, Program.wp_bind]
  refine Program.wp_mono ?_ (h s trail hpre)
  rintro ⟨left, s'⟩ trail' hpost
  exact ⟨left, rfl, hpost⟩

/-- **The contract of a `with` statement**, from those of what it is made of: `enter`
    ends in `entered` or leaves the statement, the block starts in `begun` and ends in
    `left`, and `exit` takes it from there. -/
theorem Contract.withBlock {enter started body : Method Q R A S E Unit}
    {exit : Option E → Method Q R A S E Unit} {pre entered begun : Assertion Q R A S}
    {left post : Except E Unit → Assertion Q R A S}
    (henter : Contract always pre enter (onReturn (fun _ => entered) post))
    (hstarted : Contract always entered started (onReturn (fun _ => begun) post))
    (hbody : Contract always begun body left)
    (hexit : ∀ result, Contract always (left result) (afterBlock exit result) post) :
    Contract always pre (withBlock enter started body exit) post := by
  refine .bind _ henter fun _ => .bind _ hstarted fun _ => ?_
  refine .bind left ?_ hexit
  refine hbody.attempt.weaken (fun _ _ h => h) ?_
  rintro result s trail ⟨left, rfl, h⟩
  exact h

/-! ### One thing after another -/

/-- Take one step after another, catching what each of them raises. -/
def each (step : γ → Method Q R A S E Unit) : List γ → Method Q R A S E (List (Except E Unit))
  | [] => pure []
  | x :: xs => do
      let result ← attempt (step x)
      let results ← each step xs
      pure (result :: results)

/-- **What every step keeps, any number of steps keeps**, and each of them ends as it is
    `good` for that step. -/
theorem Contract.each {step : γ → Method Q R A S E Unit} {inv : Assertion Q R A S}
    {good : γ → Except E Unit → Prop}
    (h : ∀ x, Contract always inv (step x) fun result s trail => inv s trail ∧ good x result)
    (xs : List γ) :
    Contract always inv (each step xs) fun results s trail =>
      ∃ ends, results = .ok ends ∧ inv s trail ∧ List.Forall₂ good xs ends := by
  induction xs with
  | nil =>
    intro s trail hinv
    exact ⟨[], rfl, hinv, .nil⟩
  | cons x xs ih =>
    refine .bind (fun result s trail => inv s trail ∧ good x result) ?_ ?_
    · refine (h x).attempt.weaken (fun _ _ h => h) ?_
      rintro result s trail ⟨left, rfl, hpost⟩
      exact hpost
    · rintro result s trail ⟨hinv, hgood⟩
      refine Contract.bind (fun ends s trail => inv s trail ∧ List.Forall₂ good xs ends) ?_ ?_
        s trail hinv
      · refine ih.weaken (fun _ _ h => h) ?_
        rintro results s trail ⟨ends, rfl, hpost⟩
        exact hpost
      · rintro ends s trail ⟨hinv, hends⟩
        exact ⟨result :: ends, rfl, hinv, .cons hgood hends⟩

end Method

end Interaction
