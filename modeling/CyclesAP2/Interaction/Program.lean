import Mathlib

/-!
# Interaction programs

A client of some service is a program that from time to time issues a request
and goes on with the reply, or performs an action that needs no reply.  The
program is a tree: `call` branches over every possible reply, so nothing is
assumed about the service, and `act` marks a visible action.

The same tree is read in two ways.  `run` plays it against a fixed reply
function and gives the result together with the trail of events; `Path` follows
it against arbitrary replies and may stop anywhere, which is what a concurrent
run of several programs needs.  `run_of_path` joins the two: a complete path
whose replies agree with a reply function is the run against it.
-/

namespace Interaction

/-- A program issuing requests `Q`, receiving replies `R`, performing visible
    actions `A` and returning an `α`. -/
inductive Program (Q R A α : Type) where
  | done (value : α)
  | call (request : Q) (next : R → Program Q R A α)
  | act (action : A) (next : Program Q R A α)

/-- What can be observed of a program: a request with the reply the program saw,
    or an action. -/
inductive Event (Q R A : Type) where
  | exchange (request : Q) (reply : R)
  | act (action : A)
deriving DecidableEq

def Event.request? {Q R A : Type} : Event Q R A → Option Q
  | .exchange q _ => some q
  | .act _ => none

def requests {Q R A : Type} (trail : List (Event Q R A)) : List Q :=
  trail.filterMap Event.request?

theorem mem_requests_iff {Q R A : Type} {trail : List (Event Q R A)} {q : Q} :
    q ∈ requests trail ↔ ∃ r, Event.exchange q r ∈ trail := by
  simp only [requests, List.mem_filterMap]
  constructor
  · rintro ⟨event, hmem, hrequest⟩
    cases event with
    | exchange q' r =>
      cases hrequest
      exact ⟨r, hmem⟩
    | act a => cases hrequest
  · rintro ⟨r, hmem⟩
    exact ⟨_, hmem, rfl⟩

def actions {Q R A : Type} (trail : List (Event Q R A)) : List A :=
  trail.filterMap fun
    | .exchange _ _ => none
    | .act a => some a

namespace Program

variable {Q R A α β γ : Type}

def bind (program : Program Q R A α) (next : α → Program Q R A β) : Program Q R A β :=
  match program with
  | .done value => next value
  | .call request rest => .call request fun reply => (rest reply).bind next
  | .act action rest => .act action (rest.bind next)

instance : Monad (Program Q R A) where
  pure := .done
  bind := bind

def request (q : Q) : Program Q R A R := .call q .done

def perform (a : A) : Program Q R A Unit := .act a (.done ())

@[simp] theorem done_bind (value : α) (next : α → Program Q R A β) :
    (Program.done value >>= next) = next value := rfl

@[simp] theorem call_bind (q : Q) (rest : R → Program Q R A α) (next : α → Program Q R A β) :
    (Program.call q rest >>= next) = .call q fun reply => rest reply >>= next := rfl

@[simp] theorem act_bind (a : A) (rest : Program Q R A α) (next : α → Program Q R A β) :
    (Program.act a rest >>= next) = .act a (rest >>= next) := rfl

/-! ### Running against a reply function -/

/-- Play the program against `reply`: its result and the trail of its events. -/
def run (reply : Q → R) : Program Q R A α → α × List (Event Q R A)
  | .done value => (value, [])
  | .call q next =>
      let (value, trail) := (next (reply q)).run reply
      (value, .exchange q (reply q) :: trail)
  | .act a next =>
      let (value, trail) := next.run reply
      (value, .act a :: trail)

@[simp] theorem run_call (reply : Q → R) (q : Q) (next : R → Program Q R A α) :
    (Program.call q next).run reply =
      (((next (reply q)).run reply).1,
        .exchange q (reply q) :: ((next (reply q)).run reply).2) := rfl

@[simp] theorem run_act (reply : Q → R) (a : A) (next : Program Q R A α) :
    (Program.act a next).run reply =
      ((next.run reply).1, .act a :: (next.run reply).2) := rfl

def result? : Program Q R A α → Option α
  | .done value => some value
  | .call _ _ => none
  | .act _ _ => none

/-! ### Paths -/

/-- `Path p trail p'`: some sequence of replies leads the program from `p` to
    `p'`, and `trail` is what is observed on the way. -/
inductive Path : Program Q R A α → List (Event Q R A) → Program Q R A α → Prop where
  | here (p : Program Q R A α) : Path p [] p
  | exchange {q : Q} {next : R → Program Q R A α} (r : R)
      {trail : List (Event Q R A)} {p' : Program Q R A α} :
      Path (next r) trail p' → Path (.call q next) (.exchange q r :: trail) p'
  | act {a : A} {next p' : Program Q R A α} {trail : List (Event Q R A)} :
      Path next trail p' → Path (.act a next) (.act a :: trail) p'

theorem path_done_iff {value : α} {trail : List (Event Q R A)} {p : Program Q R A α} :
    Path (.done value) trail p ↔ trail = [] ∧ p = .done value := by
  constructor
  · intro h
    cases h
    exact ⟨rfl, rfl⟩
  · rintro ⟨rfl, rfl⟩
    exact .here _

theorem path_call_iff {q : Q} {next : R → Program Q R A α} {trail : List (Event Q R A)}
    {p : Program Q R A α} :
    Path (.call q next) trail p ↔
      (trail = [] ∧ p = .call q next) ∨
        ∃ r rest, trail = .exchange q r :: rest ∧ Path (next r) rest p := by
  constructor
  · intro h
    cases h with
    | here => exact Or.inl ⟨rfl, rfl⟩
    | exchange r h => exact Or.inr ⟨r, _, rfl, h⟩
  · rintro (⟨rfl, rfl⟩ | ⟨r, rest, rfl, h⟩)
    · exact .here _
    · exact .exchange r h

theorem path_act_iff {a : A} {next : Program Q R A α} {trail : List (Event Q R A)}
    {p : Program Q R A α} :
    Path (.act a next) trail p ↔
      (trail = [] ∧ p = .act a next) ∨ ∃ rest, trail = .act a :: rest ∧ Path next rest p := by
  constructor
  · intro h
    cases h with
    | here => exact Or.inl ⟨rfl, rfl⟩
    | act h => exact Or.inr ⟨_, rfl, h⟩
  · rintro (⟨rfl, rfl⟩ | ⟨rest, rfl, h⟩)
    · exact .here _
    · exact .act h

theorem path_nil_iff {p p' : Program Q R A α} : Path p [] p' ↔ p' = p := by
  constructor
  · intro h
    cases h
    rfl
  · rintro rfl
    exact .here _

theorem Path.snoc_exchange {p : Program Q R A α} {trail : List (Event Q R A)} {q : Q}
    {next : R → Program Q R A α} (h : Path p trail (.call q next)) (r : R) :
    Path p (trail ++ [.exchange q r]) (next r) := by
  generalize hp' : Program.call q next = p' at h
  induction h with
  | here p => subst hp'; exact .exchange r (.here _)
  | exchange r' _ ih => exact .exchange r' (ih hp')
  | act _ ih => exact .act (ih hp')

theorem Path.snoc_act {p : Program Q R A α} {trail : List (Event Q R A)} {a : A}
    {next : Program Q R A α} (h : Path p trail (.act a next)) :
    Path p (trail ++ [.act a]) next := by
  generalize hp' : Program.act a next = p' at h
  induction h with
  | here p => subst hp'; exact .act (.here _)
  | exchange r' _ ih => exact .exchange r' (ih hp')
  | act _ ih => exact .act (ih hp')

theorem Path.append {p p' p'' : Program Q R A α} {trail trail' : List (Event Q R A)}
    (h : Path p trail p') (h' : Path p' trail' p'') : Path p (trail ++ trail') p'' := by
  induction h with
  | here p => exact h'
  | exchange r _ ih => exact .exchange r (ih h')
  | act _ ih => exact .act (ih h')

theorem path_run (reply : Q → R) (p : Program Q R A α) :
    Path p (p.run reply).2 (.done (p.run reply).1) := by
  induction p with
  | done value => exact .here _
  | call q next ih => exact .exchange _ (ih (reply q))
  | act a next ih => exact .act ih

/-- Every path extends to a complete one. -/
theorem Path.complete [Inhabited R] {p p' : Program Q R A α} {trail : List (Event Q R A)}
    (h : Path p trail p') : ∃ rest value, Path p (trail ++ rest) (.done value) :=
  ⟨_, _, h.append (path_run (fun _ => default) p')⟩

theorem reply_of_mem_run {reply : Q → R} {p : Program Q R A α} {q : Q} {r : R}
    (h : Event.exchange q r ∈ (p.run reply).2) : r = reply q := by
  induction p with
  | done value => cases h
  | call q' next ih =>
    rw [run_call, List.mem_cons] at h
    rcases h with h | h
    · cases h
      rfl
    · exact ih _ h
  | act a next ih =>
    rw [run_act, List.mem_cons] at h
    rcases h with h | h
    · simp at h
    · exact ih h

/-- A complete path whose replies agree with `reply` is the run against it. -/
theorem run_of_path {reply : Q → R} {p : Program Q R A α} {trail : List (Event Q R A)}
    {value : α} (h : Path p trail (.done value))
    (hreply : ∀ q r, Event.exchange q r ∈ trail → reply q = r) :
    p.run reply = (value, trail) := by
  generalize hp' : Program.done value = p' at h
  induction h with
  | here p => subst hp'; rfl
  | exchange r hpath ih =>
    have hr := hreply _ r (List.mem_cons_self ..)
    have hrest := ih (fun q r' hmem => hreply q r' (List.mem_cons_of_mem _ hmem)) hp'
    rw [run_call, hr, hrest]
  | act hpath ih =>
    have hrest := ih (fun q r' hmem => hreply q r' (List.mem_cons_of_mem _ hmem)) hp'
    rw [run_act, hrest]

end Program

end Interaction
