import CyclesAP2.Agreement
import CyclesAP2.Diagnosis
import CyclesAP2.Interaction.Contract

/-!
# A guard that is used again

Nothing in the code keeps a caller from using one guard object in several `with`
statements, or from calling its methods between them; and no attribute is ever reset.
This module follows one guard through any number of uses, whatever they raise.
`Sound` is the invariant of the object, `Safe` that of its trail (`reuse_sound`): the
attributes are always those of the last confirmed commit, every statement runs its body
under a reservation granted to this guard, and everything sent says the same of the
mandate.  An abort is for good (`abort_sticks`), and the guards over one consume-once
input settle once however often each of them is used (`reuse_settles_once`).
-/

namespace CyclesAP2

open Interaction

/-- One use of a guard by its caller: in a `with` statement, or by a call outside of
    one.  The caller catches what the use raises. -/
inductive Use where
  | within (clock : Int) (body : Body)
  | outside (call : BodyCall)

def Use.run (py : Python) (flavour : Flavour) : Use → GuardM Unit
  | .within clock body => withStatement py clock flavour body
  | .outside call => call.run (bodyMethods py flavour)

def runUses (py : Python) (flavour : Flavour) (uses : List Use) :
    GuardM (List (Except PyExc Unit)) :=
  Method.each (Use.run py flavour) uses

/-! ### What every use keeps -/

/-- The guard after the reply to its reserve. -/
def GuardState.afterReserve (guard : GuardState) (reserve : Outcome) : GuardState :=
  match admission guard.args reserve with
  | .refused decision _ => { guard with decision := decision.or guard.decision }
  | .admitted decision id => { guard with decision := some decision, reservationId := some id }

/-- The steps that a use is made of, each of which keeps `inv` and leaves the trail as it
    should `always` be. -/
structure UseInvariant (py : Python) (always : List GuardEvent → Prop)
    (inv : GuardState → List GuardEvent → Prop) : Prop where
  reserve : ∀ {guard trail request} (reserve : Outcome), inv guard trail →
    guard.args.reservationBody py = .ok request →
    always (trail ++ [.exchange (.createReservation request) reserve]) ∧
      inv (guard.afterReserve reserve) (trail ++ [.exchange (.createReservation request) reserve])
  mark : ∀ {guard trail id}, inv guard trail → guard.reservationId = some id →
    always (trail ++ [.act (.withBody (some id))]) ∧
      inv guard (trail ++ [.act (.withBody (some id))])
  call : ∀ {guard trail} (call : BodyCall), inv guard trail → inv (call.apply guard) trail
  release : ∀ {guard trail id} (reason excName : String) (release : Outcome), inv guard trail →
    guard.reservationId = some id →
    always (trail ++ [.exchange (releaseRequest py guard id reason excName) release]) ∧
      inv guard (trail ++ [.exchange (releaseRequest py guard id reason excName) release])
  commit : ∀ {guard trail id decision body} (clock : Int) (commit : Outcome), inv guard trail →
    guard.abortedReason = none → guard.reservationId = some id →
    guard.decision = some decision →
    buildCommitBody py guard.args.mandate guard.actualMicros
      (truthyFields (some guard.commitMetadata)) = .ok body →
    always (trail ++ [.exchange (.commitReservation id body) commit]) ∧
      inv (if commit.succeeded then guard.settled py clock decision id body.actual.amount
        else guard)
        (trail ++ [.exchange (.commitReservation id body) commit])

/-- The steps of a `with` statement with this body: `before` holds until the body starts,
    `inside` until it ends, and `after` from then on. -/
structure StatementInvariant (py : Python) (always : List GuardEvent → Prop) (body : Body)
    (before inside after : GuardState → List GuardEvent → Prop) : Prop where
  reserve : ∀ {guard trail request} (reserve : Outcome), before guard trail →
    guard.args.reservationBody py = .ok request →
    always (trail ++ [.exchange (.createReservation request) reserve]) ∧
      before (guard.afterReserve reserve)
        (trail ++ [.exchange (.createReservation request) reserve])
  mark : ∀ {guard trail id}, before guard trail → guard.reservationId = some id →
    always (trail ++ [.act (.withBody (some id))]) ∧
      inside guard (trail ++ [.act (.withBody (some id))])
  body : ∀ {guard trail}, inside guard trail → after (body.apply py guard).2 trail
  exit : UseInvariant py always after

/-- The use raises an `AssertionError` of its own. -/
def Use.OwnsAssertion (py : Python) : Use → Prop
  | .within _ body => body.exception py = some .assertionError
  | .outside _ => False

section Rule

variable {py : Python} {always : List GuardEvent → Prop}
  {inv before inside after : GuardState → List GuardEvent → Prop} {body : Body}
  {self : GuardState} {trail : List GuardEvent}

/-- The guard inside of its statement. -/
def Inside (inv : GuardState → List GuardEvent → Prop) (guard : GuardState)
    (trail : List GuardEvent) : Prop :=
  inv guard trail ∧ ∃ id decision, guard.reservationId = some id ∧ guard.decision = some decision

/-- After a use, which was left by an `AssertionError` only if `own`. -/
def Kept (inv : GuardState → List GuardEvent → Prop) (own : Prop) (result : Except PyExc Unit)
    (guard : GuardState) (trail : List GuardEvent) : Prop :=
  inv guard trail ∧ (result = .error .assertionError → own)

theorem raiseMandateError_class {α : Type} {value : PyValue} {message : String → String} {e : PyExc}
    (h : (raiseMandateError py value message : Except PyExc α) = .error e) :
    e ≠ .assertionError := by
  rintro rfl
  unfold raiseMandateError at h
  split at h <;> cases h

theorem validateMicros_class {amount : PyValue} {field : String} {e : PyExc}
    (h : validateMicros py amount field = .error e) : e ≠ .assertionError := by
  unfold validateMicros at h
  split at h
  · split at h
    · exact raiseMandateError_class h
    · split at h
      · exact raiseMandateError_class h
      · cases h
  · exact raiseMandateError_class h

/-- A call of the body raises no `AssertionError`. -/
theorem BodyCall.escape_class {call : BodyCall} {e : PyExc} (h : call.escape py = some e) :
    e ≠ .assertionError := by
  cases call with
  | setActualMicros amount caught =>
    dsimp only [BodyCall.escape] at h
    rcases hvalidate : validateMicros py amount "actual amount" with e' | micros
    · rw [hvalidate] at h
      obtain rfl := Option.some.inj (Option.ite_none_left_eq_some.mp h).2
      exact validateMicros_class hvalidate
    · rw [hvalidate] at h
      cases h
  | attachReceiptFields fields => cases h
  | abort reason => cases h

theorem buildCommitBody_class {mandate : AP2Mandate} {actualMicros : Option Int}
    {metadata : Option Fields} {e : PyExc}
    (h : buildCommitBody py mandate actualMicros metadata = .error e) : e ≠ .assertionError := by
  unfold buildCommitBody at h
  rcases actualMicros with _ | micros
  · rcases bind_eq_error_iff.mp h with hmicros | ⟨_, _, hdone⟩
    · obtain ⟨message, rfl | rfl⟩ := AP2Mandate.amountMicros_class hmicros <;> simp
    · cases hdone
  · rcases bind_eq_error_iff.mp h with hmicros | ⟨_, _, hdone⟩
    · exact validateMicros_class hmicros
    · cases hdone

theorem enter_contract (h : StatementInvariant py always body before inside after) (own : Prop) :
    Method.Contract always before (GuardedPayment.enter py)
      (Method.onReturn (fun _ => Inside before) (Kept before own)) := by
  intro self trail hinv
  unfold Method.wp
  rw [enter_apply]
  rcases hrequest : self.args.reservationBody py with e | request
  · refine ⟨hinv, ?_⟩
    intro heq
    obtain ⟨message, rfl | rfl⟩ := GuardArgs.reservationBody_class hrequest <;> cases heq
  · intro reserve
    obtain ⟨halways, hadmitted⟩ := h.reserve reserve hinv hrequest
    refine ⟨halways, ?_⟩
    unfold GuardState.afterReserve at hadmitted
    dsimp only
    rcases hadmission : admission self.args reserve with ⟨decision, e⟩ | ⟨decision, id⟩
    · rw [hadmission] at hadmitted
      refine ⟨hadmitted, ?_⟩
      intro heq
      rcases admission_class hadmission with ⟨_, _, _, rfl⟩ | ⟨_, _, _, _, _, _, rfl⟩ |
        ⟨_, rfl, _⟩ <;> cases heq
    · rw [hadmission] at hadmitted
      exact ⟨hadmitted, id, decision, rfl, rfl⟩

theorem markBody_apply (self : GuardState) :
    markBody self = .act (.withBody self.reservationId) (.done (.ok (), self)) := by
  unfold markBody
  rw [Method.bind_apply, Method.get_apply, Program.done_bind]
  rfl

theorem markBody_contract (h : StatementInvariant py always body before inside after)
    {post : Except PyExc Unit → GuardState → List GuardEvent → Prop} :
    Method.Contract always (Inside before) markBody
      (Method.onReturn (fun _ => Inside inside) post) := by
  rintro self trail ⟨hinv, id, decision, hid, hdecision⟩
  unfold Method.wp
  rw [markBody_apply, hid]
  obtain ⟨halways, hmarked⟩ := h.mark hinv hid
  exact ⟨halways, hmarked, id, decision, hid, hdecision⟩

/-- An exception of its own changes nothing that the calls of a body leave behind. -/
theorem Body.apply_calls (py : Python) (body : Body) (self : GuardState) :
    (body.apply py self).2 = (applyCalls py body.calls self).2 := by
  dsimp only [Body.apply]
  rcases applyCalls py body.calls self with ⟨e | _, self'⟩
  · rfl
  · rcases body.raises with _ | e <;> rfl

/-- A property of the attributes that each call keeps, a body keeps. -/
theorem Body.apply_keeps {P : GuardState → Prop}
    (h : ∀ (call : BodyCall) self, P self → P (call.apply self)) (body : Body) (hself : P self) :
    P (body.apply py self).2 := by
  rw [body.apply_calls]
  generalize body.calls = calls
  induction calls generalizing self with
  | nil => exact hself
  | cons call calls ih =>
    dsimp only [applyCalls]
    rcases call.escape py with _ | e
    · exact ih (h call self hself)
    · exact hself

theorem body_contract (h : StatementInvariant py always body before inside after) :
    Method.Contract always (Inside inside) (body.run (GuardedPayment.methods py))
      (fun result => Kept (Inside after) (body.exception py = some .assertionError) result) := by
  rintro self trail ⟨hinv, id, decision, hid, hdecision⟩
  unfold Method.wp
  rw [Body.run_apply]
  have hframe := body.apply_frame py self
  refine ⟨⟨h.body hinv, id, decision, hframe.reservationId.trans hid,
    hframe.decision.trans hdecision⟩, ?_⟩
  intro heq
  have hraised : body.apply py self = (.error .assertionError, (body.apply py self).2) :=
    Prod.ext heq rfl
  exact Body.exception_of_apply hraised

/-- A release, after which the statement ends as `after` makes of its report. -/
theorem releaseProgram_wp (h : UseInvariant py always inv) (hinv : inv self trail) {id : String}
    (hid : self.reservationId = some id) (reason excName : String)
    {after : Bool × Option String → Except PyExc Unit} {own : Prop}
    (hafter : ∀ report, after report = .error .assertionError → own) :
    (releaseProgram py self id reason excName after).wp always
      (fun result trail => Kept inv own result.1 result.2 trail) trail := by
  intro release
  obtain ⟨halways, hreleased⟩ := h.release reason excName release hinv hid
  refine ⟨halways, hreleased, ?_⟩
  intro heq
  rcases bind_eq_error_iff.mp heq with hreport | ⟨report, _, hown⟩
  · obtain ⟨_, hforeign, _⟩ := releaseReport_class hreport
    cases hforeign
  · exact hafter report hown

theorem exitProgram_wp (h : UseInvariant py always inv) (hinv : inv self trail) (clock : Int)
    (flavour : Flavour) {id : String} {decision : Decision} (hid : self.reservationId = some id)
    (hdecision : self.decision = some decision) {left : Except PyExc Unit} {own : Prop}
    (hleft : left = .error .assertionError → own) :
    (exitProgram py clock flavour decision id (left, self)).wp always
      (fun result trail => Kept inv own result.1 result.2 trail) trail := by
  rcases left with e | _
  · exact releaseProgram_wp h hinv hid _ _ fun _ heq => hleft heq
  · dsimp only [exitProgram]
    rcases haborted : self.abortedReason with _ | reason
    · dsimp only [commitProgram]
      rcases hbody : buildCommitBody py self.args.mandate self.actualMicros
          (truthyFields (some self.commitMetadata)) with e | body
      · exact ⟨hinv, fun heq => absurd (Except.error.inj heq) (buildCommitBody_class hbody)⟩
      · intro commit
        obtain ⟨halways, hsent⟩ := h.commit clock commit hinv haborted hid hdecision hbody
        refine ⟨halways, ?_⟩
        dsimp only
        rcases hverdict : commitVerdict flavour self.args.mandate.transactionId.val id commit with
          _ | e | ⟨errorCode, requestId⟩
        · rw [if_pos (commitVerdict_settled_iff.mp hverdict)] at hsent
          exact ⟨hsent, nofun⟩
        · rw [if_neg (by simp [succeeded_of_verdict hverdict])] at hsent
          refine ⟨hsent, ?_⟩
          intro heq
          rcases commitVerdict_class hverdict with ⟨_, _, _, _, rfl⟩ | ⟨_, rfl, _⟩ <;> cases heq
        · rw [if_neg (by simp [succeeded_of_verdict hverdict])] at hsent
          exact releaseProgram_wp h hsent hid _ _ nofun
    · exact releaseProgram_wp h hinv hid _ _ nofun

/-- **The rule of the `with` statement.**  It is in `before` until its body starts, in
    `inside` until its body ends, and in `after` from then on. -/
theorem statement_contract {clock : Int} {flavour : Flavour} {exit : Option PyExc → GuardM Unit}
    (hexit : ∀ {self : GuardState} {decision reservationId}, self.decision = some decision →
      self.reservationId = some reservationId → ∀ result : Except PyExc Unit,
      Method.afterBlock exit result self =
        exitProgram py clock flavour decision reservationId (result, self))
    (h : StatementInvariant py always body before inside after) :
    Method.Contract always before
      (Method.withBlock (GuardedPayment.enter py) markBody (body.run (GuardedPayment.methods py))
        exit)
      (Kept (fun guard trail => before guard trail ∨ after guard trail)
        (body.exception py = some .assertionError)) := by
  refine .withBlock ((enter_contract h (body.exception py = some .assertionError)).weaken
    (fun _ _ hinv => hinv) ?_) (markBody_contract h) (body_contract h) ?_
  · rintro (e | _) self trail hentered
    · exact ⟨Or.inl hentered.1, hentered.2⟩
    · exact hentered
  · rintro result self trail ⟨⟨hinv, id, decision, hid, hdecision⟩, hown⟩
    unfold Method.wp
    rw [hexit hdecision hid result]
    refine Program.wp_mono ?_ (exitProgram_wp h.exit hinv clock flavour hid hdecision hown)
    rintro result trail ⟨hleft, hown⟩
    exact ⟨Or.inr hleft, hown⟩

/-- The same in either class. -/
theorem within_contract (clock : Int) (flavour : Flavour)
    (h : StatementInvariant py always body before inside after) :
    Method.Contract always before (Use.run py flavour (.within clock body))
      (Kept (fun guard trail => before guard trail ∨ after guard trail)
        (body.exception py = some .assertionError)) := by
  cases flavour with
  | sync => exact statement_contract (exit_apply py clock) h
  | async => exact statement_contract (asyncExit_apply py clock) h

theorem Use.outside_apply (flavour : Flavour) (call : BodyCall) (self : GuardState) :
    Use.run py flavour (.outside call) self =
      match call.escape py with
      | some e => .done (.error e, self)
      | none => .done (.ok (), call.apply self) := by
  cases flavour <;> exact call.run_apply py self

/-- A statement keeps what each of its steps keeps. -/
theorem UseInvariant.statement (h : UseInvariant py always inv) (body : Body) :
    StatementInvariant py always body inv inv inv where
  reserve := h.reserve
  mark := h.mark
  body := by
    intro guard trail hinv
    exact body.apply_keeps (P := fun self => inv self trail)
      (fun call _ hself => h.call call hself) hinv
  exit := h

/-- **What each step keeps, every use keeps**, in either class; and none of the guard's own
    assertions fails. -/
theorem UseInvariant.contract (h : UseInvariant py always inv) (flavour : Flavour) (use : Use) :
    Method.Contract always inv (use.run py flavour) (Kept inv (use.OwnsAssertion py)) := by
  cases use with
  | within clock body =>
    refine (within_contract clock flavour (h.statement body)).weaken (fun _ _ hinv => hinv) ?_
    rintro result self trail ⟨hleft, hown⟩
    exact ⟨hleft.elim id id, hown⟩
  | outside call =>
    intro self trail hinv
    unfold Method.wp
    rw [Use.outside_apply]
    rcases hescape : call.escape py with _ | e
    · exact ⟨h.call call hinv, nofun⟩
    · exact ⟨hinv, fun heq => absurd (Except.error.inj heq) (BodyCall.escape_class hescape)⟩

/-- What holds along a life of a guard, and at its end. -/
theorem UseInvariant.path (h : UseInvariant py always inv) (hinv : inv self trail)
    (halways : always trail) {flavour : Flavour} {uses : List Use} {rest : List GuardEvent}
    {p : Program Request Outcome Mark _}
    (hpath : Program.Path (runUses py flavour uses self) rest p) :
    always (trail ++ rest) ∧ ∀ result self', p = .done (result, self') →
      ∃ ends, result = .ok ends ∧ inv self' (trail ++ rest) ∧
        List.Forall₂ (fun use left => left = .error .assertionError → use.OwnsAssertion py)
          uses ends :=
  (Method.Contract.each (fun use => h.contract flavour use) uses).path hinv halways hpath

end Rule

/-! ### The trail of a guard -/

/-- A reserve of this guard was answered with a reservation. -/
def Granted (args : GuardArgs) (trail : List GuardEvent) (id : String) : Prop :=
  ∃ request reserve decision, Event.exchange (.createReservation request) reserve ∈ trail ∧
    admission args reserve = .admitted decision id

/-- The key of the phase of the request, with a suffix only for a release. -/
def Keyed (py : Python) (mandate : AP2Mandate) (q : Request) : Prop :=
  ∃ suffix, q.key = idempotencyKey py mandate q.phase suffix ∧ (q.phase = .commit → suffix = none)

/-- Every reserve is the one of these arguments, bodies start and commits and releases
    are sent under granted reservations only, and with the keys of the mandate. -/
structure Safe (py : Python) (args : GuardArgs) (trail : List GuardEvent) : Prop where
  reserves : ∀ request reserve, Event.exchange (.createReservation request) reserve ∈ trail →
    args.reservationBody py = .ok request
  marks : ∀ held, Event.act (.withBody held) ∈ trail → ∃ id, held = some id ∧ Granted args trail id
  later : ∀ q outcome id, Event.exchange q outcome ∈ trail → q.target = some id →
    Granted args trail id ∧ Keyed py args.mandate q

/-- The reservation and the amount of a commit that was confirmed. -/
def settledBy : GuardEvent → Option (String × Int)
  | .exchange (.commitReservation id body) commit =>
    if commit.succeeded then some (id, body.actual.amount) else none
  | _ => none

def lastSettled (trail : List GuardEvent) : Option (String × Int) :=
  (trail.filterMap settledBy).getLast?

section Trails

variable {py : Python} {args : GuardArgs} {trail : List GuardEvent} {id : String}

theorem Granted.snoc (h : Granted args trail id) (event : GuardEvent) :
    Granted args (trail ++ [event]) id := by
  obtain ⟨request, reserve, decision, hseen, hadmission⟩ := h
  exact ⟨request, reserve, decision, List.mem_append_left _ hseen, hadmission⟩

theorem lastSettled_snoc (trail : List GuardEvent) (event : GuardEvent) :
    lastSettled (trail ++ [event]) = (settledBy event).or (lastSettled trail) := by
  rw [lastSettled, List.filterMap_append, List.getLast?_append, lastSettled]
  rcases hevent : settledBy event with _ | settled
  · simp [hevent]
  · simp [hevent]

theorem Safe.nil : Safe py args [] := by
  constructor <;> simp

/-- One more event, about which only it itself has to be checked. -/
theorem Safe.snoc (h : Safe py args trail) {event : GuardEvent}
    (hreserve : ∀ request reserve, event = .exchange (.createReservation request) reserve →
      args.reservationBody py = .ok request)
    (hmark : ∀ held, event = .act (.withBody held) → ∃ id, held = some id ∧ Granted args trail id)
    (hlater : ∀ q outcome id, event = .exchange q outcome → q.target = some id →
      Granted args trail id ∧ Keyed py args.mandate q) :
    Safe py args (trail ++ [event]) := by
  refine ⟨?_, ?_, ?_⟩
  · intro request reserve hseen
    rcases List.mem_append.mp hseen with hold | hnew
    · exact h.reserves request reserve hold
    · exact hreserve request reserve (List.mem_singleton.mp hnew).symm
  · intro held hseen
    have hmarked : ∃ id, held = some id ∧ Granted args trail id := by
      rcases List.mem_append.mp hseen with hold | hnew
      · exact h.marks held hold
      · exact hmark held (List.mem_singleton.mp hnew).symm
    obtain ⟨id, hheld, hgranted⟩ := hmarked
    exact ⟨id, hheld, hgranted.snoc event⟩
  · intro q outcome id hseen htarget
    have hsent : Granted args trail id ∧ Keyed py args.mandate q := by
      rcases List.mem_append.mp hseen with hold | hnew
      · exact h.later q outcome id hold htarget
      · exact hlater q outcome id (List.mem_singleton.mp hnew).symm htarget
    exact ⟨hsent.1.snoc event, hsent.2⟩

theorem Safe.reserve (h : Safe py args trail) {request : ReservationBody}
    (hrequest : args.reservationBody py = .ok request) (reserve : Outcome) :
    Safe py args (trail ++ [.exchange (.createReservation request) reserve]) := by
  refine h.snoc ?_ (fun held heq => by cases heq) ?_
  · rintro request' reserve' heq
    cases heq
    exact hrequest
  · rintro q outcome id heq htarget
    cases heq
    cases htarget

theorem Safe.mark (h : Safe py args trail) (hgranted : Granted args trail id) :
    Safe py args (trail ++ [.act (.withBody (some id))]) := by
  refine h.snoc (fun request reserve heq => by cases heq) ?_ (fun q outcome id heq => by cases heq)
  intro held heq
  cases heq
  exact ⟨id, rfl, hgranted⟩

theorem Safe.sent (h : Safe py args trail) (hgranted : Granted args trail id) {q : Request}
    (htarget : q.target = some id) (hkey : Keyed py args.mandate q) (outcome : Outcome) :
    Safe py args (trail ++ [.exchange q outcome]) := by
  refine h.snoc ?_ (fun held heq => by cases heq) ?_
  · rintro request reserve heq
    cases heq
    cases htarget
  · rintro q' outcome' id' heq htarget'
    cases heq
    cases htarget.symm.trans htarget'
    exact ⟨hgranted, hkey⟩

end Trails

/-! ### The object -/

/-- The invariant of a guard: it keeps its arguments, an override is an accepted amount,
    a reservation it holds was granted to it, and `committed` and the receipt are those of
    the last commit that was confirmed. -/
structure Sound (py : Python) (args : GuardArgs) (guard : GuardState) (trail : List GuardEvent) :
    Prop where
  safe : Safe py args trail
  args_eq : guard.args = args
  actual : ∀ micros, guard.actualMicros = some micros → 0 ≤ micros ∧ micros ≤ MAX_USD_MICROS
  held : ∀ id, guard.reservationId = some id → Granted args trail id ∧ guard.decision ≠ none
  committed : guard.committed = (lastSettled trail).isSome
  receipt : (guard.receipt.map fun receipt => (receipt.reservationId, receipt.amountMicros)) =
    if args.emitReceipt then lastSettled trail else none

theorem Sound.init (py : Python) (args : GuardArgs) : Sound py args (GuardState.init args) [] := by
  refine ⟨.nil, rfl, ?_, ?_, rfl, ?_⟩
  · simp [GuardState.init]
  · simp [GuardState.init]
  · split <;> rfl

section Objects

variable {py : Python} {args : GuardArgs} {self : GuardState} {trail : List GuardEvent}

/-- An event that settles nothing leaves the object as sound as it was. -/
theorem Sound.snoc (h : Sound py args self trail) {event : GuardEvent}
    (hsafe : Safe py args (trail ++ [event])) (hsilent : settledBy event = none) :
    Sound py args self (trail ++ [event]) := by
  have hsettled : lastSettled (trail ++ [event]) = lastSettled trail := by
    rw [lastSettled_snoc, hsilent, Option.none_or]
  refine ⟨hsafe, h.args_eq, h.actual, ?_, ?_, ?_⟩
  · intro id hid
    exact ⟨(h.held id hid).1.snoc event, (h.held id hid).2⟩
  · rw [hsettled]
    exact h.committed
  · rw [hsettled]
    exact h.receipt

theorem Sound.call (h : Sound py args self trail) (call : BodyCall) :
    Sound py args (call.apply self) trail := by
  have hframe := call.apply_frame self
  refine ⟨h.safe, hframe.args.trans h.args_eq, ?_, ?_, hframe.committed.trans h.committed, ?_⟩
  · intro micros hmicros
    cases call with
    | setActualMicros amount caught =>
      dsimp only [BodyCall.apply] at hmicros
      rcases haccepted : acceptedMicros amount with _ | accepted
      · rw [haccepted] at hmicros
        exact h.actual micros hmicros
      · rw [haccepted] at hmicros
        cases hmicros
        exact (acceptedMicros_eq_some_iff.mp haccepted).2
    | attachReceiptFields fields => exact h.actual micros hmicros
    | abort reason => exact h.actual micros hmicros
  · rw [hframe.reservationId, hframe.decision]
    exact h.held
  · rw [hframe.receipt]
    exact h.receipt

theorem Sound.decide (h : Sound py args self trail) {decision : Option Decision}
    (hdecision : self.decision ≠ none → decision ≠ none) :
    Sound py args { self with decision := decision } trail :=
  ⟨h.safe, h.args_eq, h.actual, fun id hid => ⟨(h.held id hid).1, hdecision (h.held id hid).2⟩,
    h.committed, h.receipt⟩

theorem Sound.hold (h : Sound py args self trail) {id : String} (hgranted : Granted args trail id)
    (decision : Decision) :
    Sound py args { self with decision := some decision, reservationId := some id } trail := by
  refine ⟨h.safe, h.args_eq, h.actual, ?_, h.committed, h.receipt⟩
  intro held hheld
  cases hheld
  exact ⟨hgranted, Option.some_ne_none decision⟩

/-- A confirmed commit makes the attributes those of this commit. -/
theorem Sound.settle (h : Sound py args self trail) {id : String} {decision : Decision}
    {body : CommitBody} {commit : Outcome} (hsucceeded : commit.succeeded = true)
    (hsafe : Safe py args (trail ++ [.exchange (.commitReservation id body) commit]))
    (clock : Int) :
    Sound py args (self.settled py clock decision id body.actual.amount)
      (trail ++ [.exchange (.commitReservation id body) commit]) := by
  have hlast : lastSettled (trail ++ [.exchange (.commitReservation id body) commit]) =
      some (id, body.actual.amount) := by
    rw [lastSettled_snoc, settledBy, if_pos hsucceeded]
    rfl
  have hheld : ∀ held, self.reservationId = some held →
      Granted args (trail ++ [.exchange (.commitReservation id body) commit]) held ∧
        self.decision ≠ none :=
    fun held hid => ⟨(h.held held hid).1.snoc _, (h.held held hid).2⟩
  have hsilent : args.emitReceipt = false → self.receipt = none := by
    intro hemit
    have hreceipt := h.receipt
    rw [hemit] at hreceipt
    simpa using hreceipt
  rcases hemit : args.emitReceipt with _ | _
  · have hnone := hsilent hemit
    rw [← h.args_eq] at hemit
    rw [GuardState.settled, if_neg (by simp [hemit])]
    refine ⟨hsafe, h.args_eq, h.actual, hheld, ?_, ?_⟩
    · rw [hlast]
      rfl
    · rw [← h.args_eq, hemit]
      exact congrArg _ hnone
  · have hemits := hemit
    rw [← h.args_eq] at hemits
    rw [GuardState.settled, if_pos hemits]
    refine ⟨hsafe, h.args_eq, h.actual, hheld, ?_, ?_⟩
    · rw [hlast]
      rfl
    · rw [hlast, hemit]
      rfl

/-- The invariant of the object is one that every use keeps. -/
theorem sound_invariant (py : Python) (args : GuardArgs) :
    UseInvariant py (Safe py args) (Sound py args) where
  reserve := by
    intro guard trail request reserve h hrequest
    rw [h.args_eq] at hrequest
    have hsafe := h.safe.reserve hrequest reserve
    have hsound := h.snoc hsafe rfl
    refine ⟨hsafe, ?_⟩
    unfold GuardState.afterReserve
    rcases hadmission : admission guard.args reserve with ⟨decision, e⟩ | ⟨decision, id⟩
    · refine hsound.decide ?_
      rcases decision with _ | decision <;> simp
    · rw [h.args_eq] at hadmission
      exact hsound.hold
        ⟨request, reserve, decision, List.mem_append_right _ (.head _), hadmission⟩ decision
  mark := by
    intro guard trail id h hid
    have hsafe := h.safe.mark (h.held id hid).1
    exact ⟨hsafe, h.snoc hsafe rfl⟩
  call := fun call h => h.call call
  release := by
    intro guard trail id reason excName release h hid
    have hkeyed : Keyed py args.mandate (releaseRequest py guard id reason excName) :=
      ⟨some excName, by rw [← h.args_eq]; rfl, fun hphase => by cases hphase⟩
    have hsafe := h.safe.sent (h.held id hid).1 rfl hkeyed release
    exact ⟨hsafe, h.snoc hsafe rfl⟩
  commit := by
    intro guard trail id decision body clock commit h _ hid _ hbody
    have hkeyed : Keyed py args.mandate (.commitReservation id body) := by
      obtain ⟨_, _, hcommit⟩ := buildCommitBody_ok_iff.mp hbody
      refine ⟨none, ?_, fun _ => rfl⟩
      change body.idempotencyKey = _
      rw [hcommit, h.args_eq]
      rfl
    have hsafe := h.safe.sent (h.held id hid).1 rfl hkeyed commit
    refine ⟨hsafe, ?_⟩
    rcases hsucceeded : commit.succeeded with _ | _
    · exact h.snoc hsafe (by simp [settledBy, hsucceeded])
    · exact h.settle hsucceeded hsafe clock

end Objects

/-- **A guard that is used again stays sound.**  Whatever the caller does with it and
    however the client answers, its trail is safe at every moment, and at the end its
    attributes are those of the last confirmed commit; and an `AssertionError` left no use
    but those whose own body raised it, so none of its own assertions ever fails. -/
theorem reuse_sound (py : Python) (flavour : Flavour) (args : GuardArgs) (uses : List Use)
    {trail : List GuardEvent} {p : Program Request Outcome Mark _}
    (h : Program.Path (runUses py flavour uses (GuardState.init args)) trail p) :
    Safe py args trail ∧ ∀ result self, p = .done (result, self) →
      ∃ ends, result = .ok ends ∧ Sound py args self trail ∧
        List.Forall₂ (fun use left => left = .error .assertionError → use.OwnsAssertion py)
          uses ends :=
  (sound_invariant py args).path (Sound.init py args) .nil h

/-- A payment, an abort that comes too late, and a second statement. -/
def abortedAfterwards : List Use :=
  [.within 1000 ⟨[], none⟩, .outside (.abort "late"), .within 2000 ⟨[], none⟩]

theorem reuse_sound_aborted :
    let run := (runUses .sample .sync abortedAfterwards (GuardState.init .sample)).run
      Answers.sample.reply
    Safe .sample .sample run.2 ∧ Sound .sample .sample run.1.2 run.2 := by
  intro run
  obtain ⟨hsafe, hleft⟩ := reuse_sound .sample .sync .sample abortedAfterwards
    (Program.path_run Answers.sample.reply _)
  obtain ⟨_, _, hsound, _⟩ := hleft _ _ rfl
  exact ⟨hsafe, hsound⟩

/-! ### An abort is for good -/

/-- No commit is sent. -/
def CommitFree (trail : List GuardEvent) : Prop :=
  ∀ q outcome, Event.exchange q outcome ∈ trail → q.phase ≠ .commit

theorem CommitFree.nil : CommitFree [] :=
  fun _ _ hseen => absurd hseen List.not_mem_nil

theorem CommitFree.sent {trail : List GuardEvent} (h : CommitFree trail) {q : Request}
    (hq : q.phase ≠ .commit) (outcome : Outcome) : CommitFree (trail ++ [.exchange q outcome]) := by
  intro q' outcome' hseen
  rcases List.mem_append.mp hseen with hold | hnew
  · exact h q' outcome' hold
  · cases List.mem_singleton.mp hnew
    exact hq

theorem CommitFree.act {trail : List GuardEvent} (h : CommitFree trail) (mark : Mark) :
    CommitFree (trail ++ [.act mark]) := by
  intro q outcome hseen
  rcases List.mem_append.mp hseen with hold | hnew
  · exact h q outcome hold
  · cases List.mem_singleton.mp hnew

/-- A guard with a reason to abort, and a trail without commits. -/
def Aborted (guard : GuardState) (trail : List GuardEvent) : Prop :=
  guard.abortedReason ≠ none ∧ CommitFree trail

theorem BodyCall.apply_abortedReason (call : BodyCall) {self : GuardState}
    (h : self.abortedReason ≠ none) : (call.apply self).abortedReason ≠ none := by
  cases call with
  | setActualMicros amount caught =>
    dsimp only [BodyCall.apply]
    cases acceptedMicros amount <;> exact h
  | attachReceiptFields fields => exact h
  | abort reason => exact Option.some_ne_none _

theorem aborted_invariant (py : Python) : UseInvariant py CommitFree Aborted where
  reserve := by
    intro guard trail request reserve h _
    have hfree := h.2.sent (q := .createReservation request) KeyPhase.noConfusion reserve
    refine ⟨hfree, ?_, hfree⟩
    unfold GuardState.afterReserve
    rcases admission guard.args reserve with ⟨decision, e⟩ | ⟨decision, id⟩ <;> exact h.1
  mark := by
    intro guard trail id h _
    have hfree := h.2.act (.withBody (some id))
    exact ⟨hfree, h.1, hfree⟩
  call := fun call h => ⟨call.apply_abortedReason h.1, h.2⟩
  release := by
    intro guard trail id reason excName release h _
    have hfree := h.2.sent (q := releaseRequest py guard id reason excName) KeyPhase.noConfusion
      release
    exact ⟨hfree, h.1, hfree⟩
  commit := by
    intro guard trail id decision body clock commit h haborted
    exact absurd haborted h.1

/-- The body comes to an `abort` call. -/
def Body.Aborts (py : Python) (body : Body) : Prop :=
  ∃ reason, .abort reason ∈ body.calls.takeWhile fun call => (call.escape py).isNone

/-- Some body has started. -/
def BodyStarted (trail : List GuardEvent) : Prop :=
  ∃ held, Event.act (.withBody held) ∈ trail

theorem applyCalls_abortedReason {py : Python} {calls : List BodyCall} (self : GuardState)
    (h : self.abortedReason ≠ none ∨
      ∃ reason, .abort reason ∈ calls.takeWhile fun call => (call.escape py).isNone) :
    (applyCalls py calls self).2.abortedReason ≠ none := by
  induction calls generalizing self with
  | nil => exact h.resolve_right fun ⟨_, hmem⟩ => absurd hmem List.not_mem_nil
  | cons call calls ih =>
    dsimp only [applyCalls]
    rcases hescape : call.escape py with _ | e
    · refine ih _ ?_
      rcases h with haborted | ⟨reason, hmem⟩
      · exact Or.inl (call.apply_abortedReason haborted)
      · rw [List.takeWhile_cons_of_pos (by simp [hescape])] at hmem
        rcases List.mem_cons.mp hmem with rfl | hmem
        · exact Or.inl (Option.some_ne_none _)
        · exact Or.inr ⟨reason, hmem⟩
    · refine h.resolve_right ?_
      rintro ⟨reason, hmem⟩
      rw [List.takeWhile_cons_of_neg (by simp [hescape])] at hmem
      exact absurd hmem List.not_mem_nil

theorem Body.Aborts.abortedReason {py : Python} {body : Body} (h : body.Aborts py)
    (self : GuardState) : (body.apply py self).2.abortedReason ≠ none := by
  rw [body.apply_calls]
  exact applyCalls_abortedReason self (Or.inr h)

/-- Whatever the guard was before, a body that aborts leaves it with a reason to.  Before
    the body starts nothing is known of that, but no commit is sent either. -/
theorem aborting_invariant {py : Python} {body : Body} (h : body.Aborts py) :
    StatementInvariant py CommitFree body
      (fun _ trail => CommitFree trail ∧ ¬BodyStarted trail) (fun _ => CommitFree) Aborted where
  reserve := by
    rintro guard trail request reserve ⟨hfree, hunstarted⟩ _
    have hfree' := hfree.sent (q := .createReservation request) KeyPhase.noConfusion reserve
    refine ⟨hfree', hfree', ?_⟩
    rintro ⟨held, hmark⟩
    rcases List.mem_append.mp hmark with hold | hnew
    · exact hunstarted ⟨held, hold⟩
    · cases List.mem_singleton.mp hnew
  mark := by
    rintro guard trail id ⟨hfree, _⟩ _
    exact ⟨hfree.act _, hfree.act _⟩
  body := fun hfree => ⟨h.abortedReason _, hfree⟩
  exit := aborted_invariant py

/-- No use of the guard sends a commit, from this state on. -/
def NeverCommits (py : Python) (flavour : Flavour) (self : GuardState) : Prop :=
  ∀ uses trail p, Program.Path (runUses py flavour uses self) trail p → CommitFree trail

theorem neverCommits_of_aborted {py : Python} {flavour : Flavour} {self : GuardState}
    (h : self.abortedReason ≠ none) : NeverCommits py flavour self :=
  fun _ _ _ hpath => ((aborted_invariant py).path ⟨h, .nil⟩ .nil hpath).1

/-- **An abort is for good.**  A guard with a reason to abort never commits again; and
    whatever the guard was before, a statement whose body comes to an `abort` call sends no
    commit itself, and none is sent after it if its body has started. -/
theorem abort_sticks (py : Python) (flavour : Flavour) (self : GuardState) :
    (self.abortedReason ≠ none → NeverCommits py flavour self) ∧
    ∀ clock body, body.Aborts py →
      (∀ trail p, Program.Path (Use.run py flavour (.within clock body) self) trail p →
        CommitFree trail) ∧
      ∀ trail left self', Program.Path (Use.run py flavour (.within clock body) self) trail
          (.done (left, self')) → BodyStarted trail → NeverCommits py flavour self' := by
  refine ⟨neverCommits_of_aborted, ?_⟩
  intro clock body haborts
  have hcontract := within_contract clock flavour (aborting_invariant haborts)
  have hunstarted : ¬BodyStarted [] := fun ⟨_, hmark⟩ => absurd hmark List.not_mem_nil
  constructor
  · intro trail p hpath
    exact (hcontract.path ⟨.nil, hunstarted⟩ .nil hpath).1
  · intro trail left self' hpath hstarted
    obtain ⟨⟨_, hnever⟩ | haborted, _⟩ := (hcontract.path ⟨.nil, hunstarted⟩ .nil hpath).2 _ _ rfl
    · exact absurd hstarted hnever
    · exact neverCommits_of_aborted haborted.1

/-- A guard that has paid. -/
def paidGuard : GuardState :=
  { GuardState.init .sample with
    reservationId := some "res-1", decision := some .allow, committed := true }

/-- It is used again, its body aborts, and it is used a third time. -/
theorem abort_sticks_late :
    let again := (Use.run .sample .async (.within 1 ⟨[.abort "no stock"], none⟩) paidGuard).run
      Answers.sample.reply
    let third := (runUses .sample .async [.within 2 ⟨[], none⟩] again.1.2).run Answers.sample.reply
    CommitFree again.2 ∧ CommitFree third.2 := by
  intro again third
  have haborts : Body.Aborts .sample ⟨[.abort "no stock"], none⟩ := ⟨"no stock", .head _⟩
  have hstarted : BodyStarted again.2 := ⟨some "res-1", .tail _ (.head _)⟩
  obtain ⟨hstatement, hlater⟩ := (abort_sticks .sample .async paidGuard).2 1 _ haborts
  exact ⟨hstatement _ _ (Program.path_run Answers.sample.reply _),
    hlater _ _ _ (Program.path_run Answers.sample.reply _) hstarted _ _ _
      (Program.path_run Answers.sample.reply _)⟩

/-! ### Guards that are used again, at one server -/

/-- One guard, and all that its caller does with it. -/
structure Client where
  flavour : Flavour := .sync
  args : GuardArgs
  uses : List Use

def Client.program (py : Python) (client : Client) :
    Program Request Outcome Mark (Except PyExc (List (Except PyExc Unit)) × GuardState) :=
  runUses py client.flavour client.uses (GuardState.init client.args)

section Clients

variable {ι σ : Type} [DecidableEq ι]

abbrev ClientNetwork (ι σ : Type) :=
  Network ι (ServerState σ) Request Outcome Mark
    (Except PyExc (List (Except PyExc Unit)) × GuardState)

/-- The networks that these guards and the server can come to. -/
def RunningAgain (py : Python) (clients : ι → Client) (balances : σ) (s : ClientNetwork ι σ) :
    Prop :=
  Network.Reachable (cyclesServer σ).Serves Unheard (ServerState.empty balances)
    (fun i => (clients i).program py) s

variable {py : Python} {clients : ι → Client} {balances : σ} {s : ClientNetwork ι σ}

theorem RunningAgain.safe (h : RunningAgain py clients balances s) (i : ι) :
    Safe py (clients i).args (s.trails i) :=
  ((sound_invariant py (clients i).args).path (Sound.init py _) .nil
    (Network.Reachable.path h i)).1

theorem RunningAgain.consistent (h : RunningAgain py clients balances s) : s.server.Consistent := by
  have hkeeps : Network.Keeps (cyclesServer σ).Serves (fun _ => True) ServerState.Consistent
      (fun _ _ _ => True) := {
    inv := fun hconsistent _ hserves => hconsistent.serves hserves
    seen := fun _ _ _ => trivial
    stable := fun _ _ _ _ => trivial }
  exact (Network.Reachable.invariant hkeeps (fun _ => trivial) (fun _ _ _ _ _ => trivial)
    (ServerState.empty_consistent balances) h).1

/-- A reservation that was granted to a guard is one of the server, created by a body
    equal to its own. -/
theorem RunningAgain.reservation (h : RunningAgain py clients balances s) {i : ι} {id : String}
    (hgranted : Granted (clients i).args (s.trails i) id) :
    ∃ body, (clients i).args.reservationBody py = .ok body ∧
      ⟨id, body⟩ ∈ s.server.world.reservations := by
  obtain ⟨request, reserve, decision, hseen, hadmission⟩ := hgranted
  obtain ⟨hsucceeded, hid⟩ := granted_of_admission hadmission
  have hrecorded : s.server.recorded (Request.createReservation request).bucket =
      some (.createReservation request, reserve) :=
    Network.Reachable.recorded_of_telling cyclesServer_mute h hseen (by simp [hsucceeded])
  exact ⟨request, (h.safe i).reserves request reserve hseen,
    h.consistent.granted request reserve id hrecorded hid⟩

/-- **Guards that are used again settle once.**  However often each guard over one
    consume-once input is used, and in whatever order, all their bodies start under one
    reservation, and all their confirmed commits are one commit with one answer. -/
theorem reuse_settles_once (h : RunningAgain py clients balances s) {i j : ι}
    (hsame : SameConsumeOnce (clients i).args.mandate (clients j).args.mandate) :
    (∀ held held', Event.act (.withBody held) ∈ s.trails i →
      Event.act (.withBody held') ∈ s.trails j → held = held') ∧
    ∀ id id' body body' commit commit',
      Event.exchange (.commitReservation id body) commit ∈ s.trails i →
      Event.exchange (.commitReservation id' body') commit' ∈ s.trails j →
      commit.succeeded = true → commit'.succeeded = true →
      id = id' ∧ body = body' ∧ commit = commit' := by
  constructor
  · intro held held' hmark hmark'
    obtain ⟨id, rfl, hgranted⟩ := (h.safe i).marks held hmark
    obtain ⟨id', rfl, hgranted'⟩ := (h.safe j).marks held' hmark'
    obtain ⟨body, hbody, hmem⟩ := h.reservation hgranted
    obtain ⟨body', hbody', hmem'⟩ := h.reservation hgranted'
    have hone := h.consistent.eq_of_key hmem hmem' (by
      rw [key_of_reservationBody hbody, key_of_reservationBody hbody',
        idempotencyKey_congr py hsame])
    exact congrArg (fun held => some held.id) hone
  · intro id id' body body' commit commit' hseen hseen' hsucceeded hsucceeded'
    obtain ⟨_, suffix, hkey, hnone⟩ := (h.safe i).later _ _ id hseen rfl
    obtain ⟨_, suffix', hkey', hnone'⟩ := (h.safe j).later _ _ id' hseen' rfl
    obtain rfl := hnone rfl
    obtain rfl := hnone' rfl
    have hbucket : (cyclesServer σ).key (.commitReservation id body) =
        (cyclesServer σ).key (.commitReservation id' body') := by
      refine congrArg (Prod.mk KeyPhase.commit) ?_
      exact hkey.trans ((idempotencyKey_congr py hsame _ _).trans hkey'.symm)
    obtain ⟨hrequest, hcommit⟩ := Network.Reachable.agree cyclesServer_mute h hseen hseen'
      (by simp [hsucceeded]) (by simp [hsucceeded']) hbucket
    obtain ⟨hid, hbody⟩ := Request.commitReservation.inj hrequest
    exact ⟨hid, hbody, hcommit⟩

end Clients

/-- A guard that is used twice, and another one over the same input. -/
def usedTwice : Bool → Client
  | false => { args := .sample, uses := [.within 1000 ⟨[], none⟩, .within 2000 ⟨[], none⟩] }
  | true => { flavour := .async, args := .sample, uses := [.within 3000 ⟨[], none⟩] }

/-- The other guard pays between the two statements. -/
theorem reuse_settles_once_usedTwice :
    let s := (Network.start (.empty ()) fun i => (usedTwice i).program .sample).play
      Policy.sample.handle [false, false, false, true, true, true, false, false, false]
    ∀ held held', Event.act (.withBody held) ∈ s.trails false →
      Event.act (.withBody held') ∈ s.trails true → held = held' := by
  intro s
  have hrunning : RunningAgain .sample usedTwice () s :=
    Network.play_reachable (fun _ _ => Protocol.handle_serves Policy.sample.applies
      Policy.sample.mismatch) _ _
  exact (reuse_settles_once (i := false) (j := true) hrunning (.inr ⟨rfl, rfl, rfl⟩)).1

end CyclesAP2
