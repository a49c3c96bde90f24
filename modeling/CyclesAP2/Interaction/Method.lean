import CyclesAP2.Interaction.Program

/-!
# Methods of an object that talks to a service

A method of a stateful object reads and updates the object's attributes, may
raise, and issues requests on the way.  As in an object-oriented language the
attributes keep the values they had when an exception was raised, so the
exception layer lies over the state layer.

Applying a method to an object gives the program it runs.  The lemmas tagged
`simp` compute that program through sequencing, raising, attribute access and
requests, so that the program of a method written with `do` is found by
rewriting.  `withBlock` is the context-manager protocol.
-/

namespace Interaction

variable {Q R A S E α β : Type}

/-- A method of an object with attributes `S` that may raise an `E`. -/
abbrev Method (Q R A S E α : Type) := ExceptT E (StateT S (Program Q R A)) α

namespace Method

def request (q : Q) : Method Q R A S E R := liftM (Program.request q : Program Q R A R)

def perform (a : A) : Method Q R A S E Unit := liftM (Program.perform a : Program Q R A Unit)

def ofExcept : Except E α → Method Q R A S E α
  | .ok value => pure value
  | .error e => throw e

/-- Run a block and catch whatever it raises. -/
def attempt (block : Method Q R A S E Unit) : Method Q R A S E (Except E Unit) :=
  fun s => do
    let (result, s') ← block s
    pure (.ok result, s')

/-! ### The program of a method -/

theorem bind_apply (m : Method Q R A S E α) (f : α → Method Q R A S E β) (s : S) :
    (m >>= f) s = (m s >>= fun result =>
      match result with
      | (.ok value, s') => f value s'
      | (.error e, s') => .done (.error e, s')) := by
  show (ExceptT.bind m f) s = _
  unfold ExceptT.bind ExceptT.bindCont ExceptT.mk
  show (StateT.bind _ _) s = _
  unfold StateT.bind
  congr 1
  funext result
  rcases result with ⟨_ | _, _⟩ <;> rfl

@[simp] theorem pure_apply (value : α) (s : S) :
    (pure value : Method Q R A S E α) s = .done (.ok value, s) := rfl

@[simp] theorem throw_apply (e : E) (s : S) :
    (throw e : Method Q R A S E α) s = .done (.error e, s) := rfl

@[simp] theorem get_apply (s : S) :
    (get : Method Q R A S E S) s = .done (.ok s, s) := rfl

@[simp] theorem modify_apply (f : S → S) (s : S) :
    (modify f : Method Q R A S E PUnit) s = .done (.ok (), f s) := rfl

@[simp] theorem request_apply (q : Q) (s : S) :
    (request q : Method Q R A S E R) s = .call q fun reply => .done (.ok reply, s) := rfl

@[simp] theorem perform_apply (a : A) (s : S) :
    (perform a : Method Q R A S E Unit) s = .act a (.done (.ok (), s)) := rfl

@[simp] theorem ofExcept_ok_apply (value : α) (s : S) :
    (ofExcept (.ok value) : Method Q R A S E α) s = .done (.ok value, s) := rfl

@[simp] theorem ofExcept_error_apply (e : E) (s : S) :
    (ofExcept (.error e) : Method Q R A S E α) s = .done (.error e, s) := rfl

theorem attempt_apply (block : Method Q R A S E Unit) (s : S) :
    attempt block s = block s >>= fun (result, s') => .done (.ok result, s') := rfl

/-! ### The context-manager protocol -/

/-- What follows a block that ended with `result`: `exit` is told the exception
    that left the block, if any, and an exit method that returns without raising
    lets that exception propagate. -/
def afterBlock (exit : Option E → Method Q R A S E Unit) :
    Except E Unit → Method Q R A S E Unit
  | .ok () => exit none
  | .error e => do
      exit (some e)
      throw e

/-- `with manager: body`.  When `enter` raises, the body never starts.  Once it
    has returned, `started` is performed and the body runs. -/
def withBlock (enter started body : Method Q R A S E Unit)
    (exit : Option E → Method Q R A S E Unit) : Method Q R A S E Unit := do
  enter
  started
  let result ← attempt body
  afterBlock exit result

end Method

end Interaction
