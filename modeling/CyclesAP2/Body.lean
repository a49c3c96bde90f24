import CyclesAP2.Guard

/-!
# What the body does to its guard

The calls of a `with` body act on the guard's attributes only, and issue no
request.  `Body.apply` computes what they leave behind, `Body.exception` what
leaves the body; `Body.run_apply` says that this is what the methods of the guard
do.  The rest of the module reads the final attributes off the list of calls.
-/

namespace CyclesAP2

open Interaction

/-- The exception a call of the body lets escape. -/
def BodyCall.escape (py : Python) : BodyCall → Option PyExc
  | .setActualMicros amount caught =>
    match validateMicros py amount "actual amount" with
    | .ok _ => none
    | .error e => if caught then none else some e
  | .attachReceiptFields _ => none
  | .abort _ => none

def BodyCall.apply (self : GuardState) : BodyCall → GuardState
  | .setActualMicros amount _ =>
    match acceptedMicros amount with
    | some micros => { self with actualMicros := some micros }
    | none => self
  | .attachReceiptFields fields =>
    { self with commitMetadata := updateFields self.commitMetadata fields.entries }
  | .abort reason => { self with abortedReason := some (slice reason 256) }

/-- The calls up to the first that lets an exception escape. -/
def applyCalls (py : Python) : List BodyCall → GuardState → GuardResult
  | [], self => (.ok (), self)
  | call :: calls, self =>
    match call.escape py with
    | some e => (.error e, self)
    | none => applyCalls py calls (call.apply self)

def Body.apply (py : Python) (body : Body) (self : GuardState) : GuardResult :=
  match applyCalls py body.calls self, body.raises with
  | (.ok (), self'), some e => (.error e, self')
  | result, _ => result

/-! ### The methods compute it -/

theorem setActualMicros_apply (py : Python) (amount : PyValue) (self : GuardState) :
    GuardedPayment.setActualMicros py amount self =
      match validateMicros py amount "actual amount" with
      | .ok micros => .done (.ok (), { self with actualMicros := some micros })
      | .error e => .done (.error e, self) := by
  simp only [GuardedPayment.setActualMicros, Method.bind_apply]
  cases validateMicros py amount "actual amount" <;> rfl

theorem BodyCall.run_apply (py : Python) (call : BodyCall) (self : GuardState) :
    call.run (GuardedPayment.methods py) self =
      match call.escape py with
      | some e => .done (.error e, self)
      | none => .done (.ok (), call.apply self) := by
  cases call with
  | setActualMicros amount caught =>
    have hiff := @validateMicros_eq_ok_iff py amount "actual amount"
    simp only [BodyCall.run, BodyCall.escape, BodyCall.apply, GuardedPayment.methods,
      Method.bind_apply, Method.attempt_apply, setActualMicros_apply]
    rcases hvalidate : validateMicros py amount "actual amount" with e | micros
    · have hnone : acceptedMicros amount = none := by
        rcases haccepted : acceptedMicros amount with _ | n
        · rfl
        · rw [hiff.mpr haccepted] at hvalidate
          simp at hvalidate
      cases caught <;> simp [hnone]
    · simp [hiff.mp hvalidate]
  | attachReceiptFields fields => rfl
  | abort reason => rfl

theorem runCalls_apply (py : Python) (calls : List BodyCall) (self : GuardState) :
    runCalls (GuardedPayment.methods py) calls self = .done (applyCalls py calls self) := by
  induction calls generalizing self with
  | nil => rfl
  | cons call calls ih =>
    simp only [runCalls, applyCalls, Method.bind_apply, BodyCall.run_apply]
    cases call.escape py with
    | none => exact ih _
    | some e => rfl

theorem Body.run_apply (py : Python) (body : Body) (self : GuardState) :
    body.run (GuardedPayment.methods py) self = .done (body.apply py self) := by
  simp only [Body.run, Body.apply, Method.bind_apply, runCalls_apply, Program.done_bind]
  rcases applyCalls py body.calls self with ⟨_ | _, self'⟩
  · rfl
  · cases body.raises <;> rfl

/-! ### What the body leaves alone -/

structure BodyFrame (before after : GuardState) : Prop where
  args : after.args = before.args
  reservationId : after.reservationId = before.reservationId
  decision : after.decision = before.decision
  receipt : after.receipt = before.receipt
  committed : after.committed = before.committed

theorem BodyFrame.refl (g : GuardState) : BodyFrame g g := ⟨rfl, rfl, rfl, rfl, rfl⟩

theorem BodyFrame.trans {g g' g'' : GuardState} (h : BodyFrame g g') (h' : BodyFrame g' g'') :
    BodyFrame g g'' where
  args := h'.args.trans h.args
  reservationId := h'.reservationId.trans h.reservationId
  decision := h'.decision.trans h.decision
  receipt := h'.receipt.trans h.receipt
  committed := h'.committed.trans h.committed

theorem BodyCall.apply_frame (call : BodyCall) (self : GuardState) :
    BodyFrame self (call.apply self) := by
  cases call with
  | setActualMicros amount caught =>
    dsimp only [BodyCall.apply]
    cases acceptedMicros amount <;> exact ⟨rfl, rfl, rfl, rfl, rfl⟩
  | attachReceiptFields fields => exact ⟨rfl, rfl, rfl, rfl, rfl⟩
  | abort reason => exact ⟨rfl, rfl, rfl, rfl, rfl⟩

theorem applyCalls_frame (py : Python) (calls : List BodyCall) (self : GuardState) :
    BodyFrame self (applyCalls py calls self).2 := by
  induction calls generalizing self with
  | nil => exact .refl self
  | cons call calls ih =>
    dsimp only [applyCalls]
    cases call.escape py with
    | none => exact (call.apply_frame self).trans (ih _)
    | some e => exact .refl self

theorem Body.apply_frame (py : Python) (body : Body) (self : GuardState) :
    BodyFrame self (body.apply py self).2 := by
  have hcalls := applyCalls_frame py body.calls self
  dsimp only [Body.apply]
  rcases hresult : applyCalls py body.calls self with ⟨_ | _, self'⟩ <;> rw [hresult] at hcalls
  · exact hcalls
  · cases body.raises <;> exact hcalls

/-! ### How the body ends -/

/-- The exception that leaves the body, if any. -/
def Body.exception (py : Python) (body : Body) : Option PyExc :=
  (body.calls.findSome? (·.escape py)).or body.raises

theorem applyCalls_of_escape {py : Python} {calls : List BodyCall} {e : PyExc}
    (h : calls.findSome? (·.escape py) = some e) (self : GuardState) :
    (applyCalls py calls self).1 = .error e := by
  induction calls generalizing self with
  | nil => simp at h
  | cons call calls ih =>
    dsimp only [applyCalls]
    rcases hescape : call.escape py with _ | e'
    · exact ih (by simpa [List.findSome?_cons, hescape] using h) _
    · simp only [List.findSome?_cons, hescape, Option.some.injEq] at h
      rw [h]

theorem applyCalls_of_complete {py : Python} {calls : List BodyCall}
    (h : calls.findSome? (·.escape py) = none) (self : GuardState) :
    applyCalls py calls self = (.ok (), calls.foldl BodyCall.apply self) := by
  induction calls generalizing self with
  | nil => rfl
  | cons call calls ih =>
    dsimp only [applyCalls, List.foldl_cons]
    rcases hescape : call.escape py with _ | e'
    · exact ih (by simpa [List.findSome?_cons, hescape] using h) _
    · simp [hescape] at h

theorem Body.apply_of_exception {py : Python} {body : Body} {e : PyExc}
    (h : body.exception py = some e) (self : GuardState) :
    (body.apply py self).1 = .error e := by
  dsimp only [Body.apply]
  rcases hescape : body.calls.findSome? (·.escape py) with _ | e'
  · rw [Body.exception, hescape, Option.none_or] at h
    rw [applyCalls_of_complete hescape, h]
  · have hcalls := applyCalls_of_escape hescape self
    rw [Body.exception, hescape, Option.some_or] at h
    cases h
    rcases hresult : applyCalls py body.calls self with ⟨result, self'⟩
    rw [hresult] at hcalls
    cases hcalls
    rfl

theorem Body.apply_of_complete {py : Python} {body : Body} (h : body.exception py = none)
    (self : GuardState) : body.apply py self = (.ok (), body.calls.foldl BodyCall.apply self) := by
  rw [Body.exception, Option.or_eq_none_iff] at h
  dsimp only [Body.apply]
  rw [applyCalls_of_complete h.1, h.2]

theorem Body.exception_of_apply {py : Python} {body : Body} {self self' : GuardState} {e : PyExc}
    (h : body.apply py self = (.error e, self')) : body.exception py = some e := by
  rcases hexception : body.exception py with _ | e'
  · rw [Body.apply_of_complete hexception] at h
    simp at h
  · have herror := Body.apply_of_exception hexception self
    rw [h] at herror
    cases herror
    rfl

theorem Body.complete_of_apply {py : Python} {body : Body} {self self' : GuardState}
    (h : body.apply py self = (.ok (), self')) :
    body.exception py = none ∧ self' = body.calls.foldl BodyCall.apply self := by
  rcases hexception : body.exception py with _ | e
  · rw [Body.apply_of_complete hexception] at h
    cases h
    exact ⟨rfl, rfl⟩
  · have herror := Body.apply_of_exception hexception self
    rw [h] at herror
    simp at herror

/-! ### What a completed body leaves behind -/

/-- An attribute each call sets or keeps holds the last value set. -/
theorem foldl_apply_last {α : Type} {field : GuardState → Option α}
    {value : BodyCall → Option α}
    (h : ∀ call self, field (BodyCall.apply self call) = (value call).or (field self))
    (calls : List BodyCall) (self : GuardState) :
    field (calls.foldl BodyCall.apply self) =
      (calls.filterMap value).getLast?.or (field self) := by
  induction calls generalizing self with
  | nil => rfl
  | cons call calls ih =>
    rw [List.foldl_cons, ih, h, List.filterMap_cons]
    rcases value call with _ | a
    · rfl
    · simp [List.getLast?_cons]

/-- The amount a call sets: an accepted argument of `set_actual_micros`. -/
def BodyCall.accepted : BodyCall → Option Int
  | .setActualMicros amount _ => acceptedMicros amount
  | .attachReceiptFields _ => none
  | .abort _ => none

def BodyCall.aborting : BodyCall → Option String
  | .setActualMicros _ _ => none
  | .attachReceiptFields _ => none
  | .abort reason => some (slice reason 256)

/-- The argument of the last accepted `set_actual_micros` call. -/
def Body.lastAccepted (body : Body) : Option Int :=
  (body.calls.filterMap BodyCall.accepted).getLast?

def Body.lastAborting (body : Body) : Option String :=
  (body.calls.filterMap BodyCall.aborting).getLast?

theorem foldl_apply_actualMicros (calls : List BodyCall) (self : GuardState) :
    (calls.foldl BodyCall.apply self).actualMicros =
      (calls.filterMap BodyCall.accepted).getLast?.or self.actualMicros := by
  refine foldl_apply_last ?_ calls self
  intro call self
  cases call with
  | setActualMicros amount caught =>
    dsimp only [BodyCall.apply, BodyCall.accepted]
    cases acceptedMicros amount <;> rfl
  | attachReceiptFields fields => rfl
  | abort reason => rfl

theorem foldl_apply_abortedReason (calls : List BodyCall) (self : GuardState) :
    (calls.foldl BodyCall.apply self).abortedReason =
      (calls.filterMap BodyCall.aborting).getLast?.or self.abortedReason := by
  refine foldl_apply_last ?_ calls self
  intro call self
  cases call with
  | setActualMicros amount caught =>
    dsimp only [BodyCall.apply, BodyCall.aborting]
    cases acceptedMicros amount <;> rfl
  | attachReceiptFields fields => rfl
  | abort reason => rfl

/-- No reason is left exactly when `abort` was never called. -/
theorem Body.lastAborting_eq_none_iff {body : Body} :
    body.lastAborting = none ↔ ∀ reason, BodyCall.abort reason ∉ body.calls := by
  simp only [lastAborting, List.getLast?_eq_none_iff, List.filterMap_eq_nil_iff]
  constructor
  · intro h reason hmem
    cases h _ hmem
  · intro h call hmem
    cases call with
    | setActualMicros amount caught => rfl
    | attachReceiptFields fields => rfl
    | abort reason => exact absurd hmem (h reason)

theorem Body.lastAccepted_bounds {body : Body} {micros : Int}
    (h : body.lastAccepted = some micros) : 0 ≤ micros ∧ micros ≤ MAX_USD_MICROS := by
  obtain ⟨call, _, haccepted⟩ := List.mem_filterMap.mp (List.mem_of_getLast? h)
  cases call with
  | setActualMicros amount caught => exact (acceptedMicros_eq_some_iff.mp haccepted).2
  | attachReceiptFields fields => cases haccepted
  | abort reason => cases haccepted

end CyclesAP2
