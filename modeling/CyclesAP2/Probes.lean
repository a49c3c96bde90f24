import CyclesAP2.ConsumeOnce

/-!
# Dry runs beside payments

A dry run asks for a decision and creates no reservation, but it posts its reserve
under the key of the payment, with a body that differs in the `dry_run` flag.  The
server then holds the key for the dry run, and turns the payment down.

Two runs of the same guards are compared, with the dry runs and without them, in
any order of steps and after any history at the server.  They agree on every
payment exactly when no dry run is the first to post under the reserve key of a
payment (`undisturbed_iff`).
-/

namespace CyclesAP2

open Interaction

variable {ι σ : Type} [DecidableEq ι]

def Party.reserveRequest (py : Python) (party : Party) : Option Request :=
  match party.args.reservationBody py with
  | .ok body => some (.createReservation body)
  | .error _ => none

/-- Two mandates take one lock: the scope and the digest of their consume-once
    inputs agree. -/
def SameLock (py : Python) (m m' : AP2Mandate) : Prop :=
  (consumeOnceInput m).1 = (consumeOnceInput m').1 ∧
    hashInput py (consumeOnceInput m).2 = hashInput py (consumeOnceInput m').2

instance (py : Python) (m m' : AP2Mandate) : Decidable (SameLock py m m') :=
  inferInstanceAs (Decidable (_ ∧ _))

/-- The guard can send its reserve, and takes the lock of this mandate. -/
def Party.posts (py : Python) (mandate : AP2Mandate) (party : Party) : Bool :=
  (party.args.mandate.amountMicros py).toBool && decide (SameLock py mandate party.args.mandate)

/-- The first guard of a schedule that posts under the lock of this mandate. -/
def firstPoster (py : Python) (parties : ι → Party) (schedule : List ι) (mandate : AP2Mandate) :
    Option ι :=
  schedule.find? fun i => (parties i).posts py mandate

/-- Where the server keeps the reserves of a mandate. -/
def reserveBucket (py : Python) (mandate : AP2Mandate) : KeyPhase × String :=
  (.reserve, idempotencyKey py mandate .reserve)

theorem reserveBucket_eq_iff {py : Python} {m m' : AP2Mandate} :
    reserveBucket py m = reserveBucket py m' ↔ SameLock py m m' := by
  have hkey : ∀ m, idempotencyKey py m .reserve = (IDEMPOTENCY_PREFIX ++ ":") ++
      ((consumeOnceInput m).1.text ++ (":" ++ (hashInput py (consumeOnceInput m).2 ++
        (":" ++ KeyPhase.reserve.text)))) := by
    intro m
    simp only [← String.append_assoc]
    rfl
  constructor
  · intro h
    have hequal := congrArg (fun bucket => bucket.2.toList) h
    simp only [reserveBucket, hkey, String.toList_append] at hequal
    have hrest := List.append_cancel_left hequal
    have hscope : (consumeOnceInput m).1 = (consumeOnceInput m').1 := by
      have hhead := congrArg List.head? hrest
      revert hhead
      cases (consumeOnceInput m).1 <;> cases (consumeOnceInput m').1 <;> simp [Scope.text,
        IDEMPOTENCY_SCOPE_OPEN_MANDATE, IDEMPOTENCY_SCOPE_TRANSACTION]
    rw [hscope] at hrest
    have hhash := List.append_cancel_right
      (List.append_cancel_left (List.append_cancel_left hrest))
    exact ⟨hscope, String.toList_inj.mp hhash⟩
  · rintro ⟨hscope, hhash⟩
    rw [reserveBucket, reserveBucket, hkey, hkey, hscope, hhash]

theorem bucket_of_reservationBody {py : Python} {args : GuardArgs} {body : ReservationBody}
    (h : args.reservationBody py = .ok body) :
    (Request.createReservation body).bucket = reserveBucket py args.mandate :=
  congrArg (Prod.mk KeyPhase.reserve) (key_of_reservationBody h)

theorem Party.posts_iff {py : Python} {mandate : AP2Mandate} {party : Party} :
    party.posts py mandate = true ↔
      ∃ body, party.args.reservationBody py = .ok body ∧
        reserveBucket py mandate = reserveBucket py party.args.mandate := by
  rw [posts, Bool.and_eq_true, decide_eq_true_iff, reserveBucket_eq_iff, exists_and_right]
  refine and_congr_left ?_
  intro _
  constructor
  · intro haccepted
    rcases hmicros : party.args.mandate.amountMicros py with e | micros
    · rw [hmicros] at haccepted
      cases haccepted
    · exact reservationBody_of_amountMicros hmicros
  · rintro ⟨body, hbody⟩
    rw [amountMicros_of_reservationBody hbody]
    rfl

theorem Party.reserveRequest_of_body {py : Python} {party : Party} {body : ReservationBody}
    (h : party.args.reservationBody py = .ok body) :
    party.reserveRequest py = some (.createReservation body) := by
  rw [reserveRequest, h]

/-! ### The record of a reserve key -/

section Records

variable {policy : Policy σ} {py : Python} {parties : ι → Party} {l : ServerState σ}
  {schedule : List ι}

theorem Policy.path (policy : Policy σ) (py : Python) (parties : ι → Party) (l : ServerState σ)
    (schedule : List ι) (i : ι) :
    Program.Path ((parties i).program py) ((policy.play py parties l schedule).trails i)
      ((policy.play py parties l schedule).procs i) :=
  Network.Reachable.path
    (policy.onward (Network.start l fun i => (parties i).program py) schedule) i

theorem Policy.trails_ne_nil {i : ι} (hmem : i ∈ schedule) {body : ReservationBody}
    (hbody : (parties i).args.reservationBody py = .ok body) :
    (policy.play py parties l schedule).trails i ≠ [] := by
  refine Network.play_trails_ne_nil hmem _ (Or.inr ?_)
  intro value hdone
  change (parties i).program py = .done value at hdone
  rw [Party.program_of_body hbody] at hdone
  simp at hdone

omit [DecidableEq ι] in
theorem firstPoster_snoc (i : ι) (mandate : AP2Mandate) :
    firstPoster py parties (schedule ++ [i]) mandate =
      (firstPoster py parties schedule mandate).or
        (if (parties i).posts py mandate then some i else none) := by
  unfold firstPoster
  rw [List.find?_append, List.find?_singleton]

omit [DecidableEq ι] in
theorem firstPoster_snoc_of_mem {i : ι} (hmem : i ∈ schedule) (mandate : AP2Mandate) :
    firstPoster py parties (schedule ++ [i]) mandate =
      firstPoster py parties schedule mandate := by
  rw [firstPoster_snoc]
  rcases hfind : firstPoster py parties schedule mandate with _ | j
  · rw [if_neg (List.find?_eq_none.mp hfind i hmem)]
    rfl
  · rfl

omit [DecidableEq ι] in
theorem body_of_firstPoster {mandate : AP2Mandate} {j : ι}
    (h : firstPoster py parties schedule mandate = some j) :
    j ∈ schedule ∧ ∃ body, (parties j).args.reservationBody py = .ok body ∧
      reserveBucket py mandate = reserveBucket py (parties j).args.mandate := by
  unfold firstPoster at h
  have hposts := List.find?_some h
  exact ⟨List.mem_of_find?_eq_some h, Party.posts_iff.mp hposts⟩

/-- One step adds a record under a reserve key only as the first step of a guard
    that posts under it. -/
theorem Policy.recorded_stepAt {s : GuardNetwork ι σ} {i : ι}
    (hpath : Program.Path ((parties i).program py) (s.trails i) (s.procs i))
    (mandate : AP2Mandate) :
    ((s.stepAt policy.handle i).server.recorded (reserveBucket py mandate)).map Prod.fst =
      ((s.server.recorded (reserveBucket py mandate)).map Prod.fst).or
        (if s.trails i = [] ∧ (parties i).posts py mandate = true then
          (parties i).reserveRequest py
        else none) := by
  by_cases htrail : s.trails i = []
  · rw [htrail] at hpath
    have hproc := Program.path_nil_iff.mp hpath
    rcases hbody : (parties i).args.reservationBody py with e | body
    · have hposts : ¬ (parties i).posts py mandate = true := by
        intro hposts
        obtain ⟨body, hbody', _⟩ := Party.posts_iff.mp hposts
        cases hbody.symm.trans hbody'
      rw [Party.program_of_error hbody] at hproc
      rw [Network.stepAt_of_done hproc, if_neg (fun h => hposts h.2), Option.or_none]
    · rw [Party.program_of_body hbody] at hproc
      rw [Network.stepAt_of_call hproc, Network.advance_server]
      have hbucket := bucket_of_reservationBody hbody
      by_cases hlock : reserveBucket py mandate = reserveBucket py (parties i).args.mandate
      · have hposts := Party.posts_iff.mpr ⟨body, hbody, hlock⟩
        rw [if_pos ⟨htrail, hposts⟩, Party.reserveRequest_of_body hbody, hlock, ← hbucket]
        obtain ⟨r, hrecorded⟩ : ∃ r, (policy.handle s.server (.createReservation body)).2.recorded
            (Request.createReservation body).bucket =
              (s.server.recorded (Request.createReservation body).bucket).or
                (some (.createReservation body, r)) :=
          Protocol.handle_recorded_self
        rw [hrecorded, Option.map_or]
        rfl
      · have hposts : ¬ (parties i).posts py mandate = true := by
          intro hposts
          obtain ⟨_, _, hlock'⟩ := Party.posts_iff.mp hposts
          exact hlock hlock'
        have hrecorded : (policy.handle s.server (.createReservation body)).2.recorded
            (reserveBucket py mandate) = s.server.recorded (reserveBucket py mandate) := by
          refine Protocol.handle_recorded_of_ne ?_
          intro heq
          exact hlock (heq.trans hbucket)
        rw [if_neg (fun h => hposts h.2), hrecorded, Option.or_none]
  · -- its reserve is behind it, and the later requests are recorded elsewhere
    rw [if_neg (fun h => htrail h.1), Option.or_none]
    congr 1
    rcases hproc : s.procs i with value | ⟨request, next⟩ | ⟨mark, rest⟩
    · rw [Network.stepAt_of_done hproc]
    · rw [Network.stepAt_of_call hproc, Network.advance_server]
      rw [hproc] at hpath
      rcases Party.call_cases hpath with ⟨hnil, _⟩ | ⟨_, hphase, _⟩
      · exact absurd hnil htrail
      · refine Protocol.handle_recorded_of_ne ?_
        intro hbucket
        exact hphase (congrArg Prod.fst hbucket).symm
    · rw [Network.stepAt_of_act hproc, Network.advance_server]

/-- **The record of a reserve key is that of its first poster**, unless the key
    was recorded before. -/
theorem Policy.recorded_reserve (policy : Policy σ) (py : Python) (parties : ι → Party)
    (l : ServerState σ) (schedule : List ι) (mandate : AP2Mandate) :
    ((policy.play py parties l schedule).server.recorded (reserveBucket py mandate)).map Prod.fst =
      ((l.recorded (reserveBucket py mandate)).map Prod.fst).or
        ((firstPoster py parties schedule mandate).bind fun j => (parties j).reserveRequest py) := by
  induction schedule using List.reverseRecOn with
  | nil => exact Option.or_none.symm
  | append_singleton schedule i ih =>
    have hplay : policy.play py parties l (schedule ++ [i]) =
        (policy.play py parties l schedule).stepAt policy.handle i := Network.play_snoc ..
    rw [hplay, Policy.recorded_stepAt (policy.path py parties l schedule i), ih, Option.or_assoc]
    congr 1
    by_cases hposts : (parties i).posts py mandate = true
    · obtain ⟨body, hbody, _⟩ := Party.posts_iff.mp hposts
      by_cases hmem : i ∈ schedule
      · have htrail : (policy.play py parties l schedule).trails i ≠ [] :=
          Policy.trails_ne_nil hmem hbody
        rw [firstPoster_snoc_of_mem hmem, if_neg (fun h => htrail h.1), Option.or_none]
      · have htrail : (policy.play py parties l schedule).trails i = [] :=
          (Network.play_of_notMem hmem _).2
        rw [firstPoster_snoc, if_pos hposts, if_pos ⟨htrail, hposts⟩]
        rcases hfirst : firstPoster py parties schedule mandate with _ | j
        · rfl
        · obtain ⟨_, body', hbody', _⟩ := body_of_firstPoster hfirst
          rw [Option.some_or, Option.bind_some, Party.reserveRequest_of_body hbody']
          rfl
    · rw [firstPoster_snoc, if_neg hposts, if_neg (fun h => hposts h.2), Option.or_none,
        Option.or_none]

/-- A reserve key has no record as long as nobody has posted under it. -/
theorem Policy.recorded_none_iff {mandate : AP2Mandate} :
    (policy.play py parties l schedule).server.recorded (reserveBucket py mandate) = none ↔
      l.recorded (reserveBucket py mandate) = none ∧
        firstPoster py parties schedule mandate = none := by
  rw [← Option.map_eq_none_iff, policy.recorded_reserve, Option.or_eq_none_iff,
    Option.map_eq_none_iff]
  refine and_congr_right ?_
  intro _
  rcases hfirst : firstPoster py parties schedule mandate with _ | j
  · simp
  · obtain ⟨_, body, hbody, _⟩ := body_of_firstPoster hfirst
    simp [Party.reserveRequest_of_body hbody]

/-- The first poster of an unseen key is the one recorded. -/
theorem Policy.recorded_of_firstPoster {mandate : AP2Mandate}
    (hunseen : l.recorded (reserveBucket py mandate) = none) {j : ι}
    (hfirst : firstPoster py parties schedule mandate = some j) {body : ReservationBody}
    (hbody : (parties j).args.reservationBody py = .ok body) :
    ∃ outcome, (policy.play py parties l schedule).server.recorded (reserveBucket py mandate) =
      some (.createReservation body, outcome) := by
  have hrecord := policy.recorded_reserve py parties l schedule mandate
  rw [hunseen, hfirst, Option.map_none, Option.none_or, Option.bind_some,
    Party.reserveRequest_of_body hbody, Option.map_eq_some_iff] at hrecord
  obtain ⟨⟨request, outcome⟩, hrecorded, rfl⟩ := hrecord
  exact ⟨outcome, hrecorded⟩

/-- An answer a guard saw: the recorded one, or a clash with the recorded one. -/
def Policy.Told (policy : Policy σ) (l : ServerState σ) (request : Request) (outcome : Outcome) :
    Prop :=
  l.recorded request.bucket = some (request, outcome) ∨
    outcome = policy.clash ∧ ∃ request' outcome',
      l.recorded request.bucket = some (request', outcome') ∧ request' ≠ request

/-- Every record is an old one or holds a fresh answer, and every answer a guard
    saw agrees with the records. -/
theorem Policy.told (policy : Policy σ) (py : Python) (parties : ι → Party) (l : ServerState σ)
    (schedule : List ι) :
    (∀ bucket entry,
      (policy.play py parties l schedule).server.recorded bucket = some entry →
        l.recorded bucket = some entry ∨ ∃ books, entry.2 = (policy.fresh books entry.1).1) ∧
      ∀ i request outcome,
        Event.exchange request outcome ∈ (policy.play py parties l schedule).trails i →
          policy.Told (policy.play py parties l schedule).server request outcome := by
  let serve : ServerState σ → Request → Outcome → ServerState σ → Prop :=
    fun l request outcome l' =>
      outcome = (policy.handle l request).1 ∧ l' = (policy.handle l request).2
  have hkeeps : Network.Keeps serve (fun _ => True)
      (fun l' => ∀ bucket entry, l'.recorded bucket = some entry →
        l.recorded bucket = some entry ∨ ∃ books, entry.2 = (policy.fresh books entry.1).1)
      policy.Told := by
    constructor
    · rintro l' request _ _ hold _ ⟨rfl, rfl⟩ bucket entry hrecorded
      rcases Protocol.handle_recorded_fresh hrecorded with hrecorded | rfl
      · exact hold bucket entry hrecorded
      · exact Or.inr ⟨_, rfl⟩
    · rintro l' request _ _ _ _ ⟨rfl, rfl⟩
      exact Protocol.handle_answer
    · rintro l' request _ _ request' outcome' _ _ ⟨rfl, rfl⟩ htold
      rcases htold with hrecorded | ⟨rfl, request'', outcome'', hrecorded, hne⟩
      · exact Or.inl (Protocol.handle_recorded_mono hrecorded)
      · exact Or.inr ⟨rfl, request'', outcome'', Protocol.handle_recorded_mono hrecorded, hne⟩
  have hreach : Network.Reachable serve (fun _ => False) l (fun i => (parties i).program py)
      (policy.play py parties l schedule) :=
    Network.play_reachable (fun _ _ => ⟨rfl, rfl⟩) schedule _
  exact Network.Reachable.invariant hkeeps (fun h => h.elim) (fun _ _ _ _ _ => trivial)
    (fun _ _ hrecorded => Or.inl hrecorded) hreach

end Records

/-! ### The same run without the dry runs -/

/-- What is documented of a server that decides by a function: a dry run changes
    nothing but the record of its key, and a mismatch is reported for a seen key
    only. -/
structure Policy.Documented (policy : Policy σ) : Prop where
  dryRun : ∀ books body, body.dryRun ≠ none →
    (policy.fresh books (.createReservation body)).2 = books
  unseen : ∀ books request, ¬ (policy.fresh books request).1.HasError "IDEMPOTENCY_MISMATCH"

theorem dryRun_of_reservationBody {py : Python} {args : GuardArgs} {body : ReservationBody}
    (h : args.reservationBody py = .ok body) :
    body.dryRun = if args.dryRun then some true else none := by
  obtain ⟨_, _, rfl⟩ := GuardArgs.reservationBody_ok_iff.mp h
  rfl

/-- The payments of a schedule: its steps without those of dry runs. -/
def payments (parties : ι → Party) (schedule : List ι) : List ι :=
  schedule.filter fun i => !(parties i).args.dryRun

/-- The run without the dry runs is alongside the run with them: the payments are
    as far, the books are equal, and the records differ by what dry runs posted. -/
structure Alongside (parties : ι → Party) (s s' : GuardNetwork ι σ) : Prop where
  procs : ∀ i, (parties i).args.dryRun = false → s.procs i = s'.procs i
  trails : ∀ i, (parties i).args.dryRun = false → s.trails i = s'.trails i
  world : s.server.world = s'.server.world
  recorded : ∀ bucket, s'.server.recorded bucket = none ∨
    s.server.recorded bucket = s'.server.recorded bucket
  later : ∀ bucket, bucket.1 ≠ .reserve →
    s.server.recorded bucket = s'.server.recorded bucket

section Alongside

variable {policy : Policy σ} {py : Python} {parties : ι → Party} {s s' : GuardNetwork ι σ} {i : ι}

theorem Alongside.dryRun (h : Alongside parties s s') (hpolicy : policy.Documented)
    (hpath : Program.Path ((parties i).program py) (s.trails i) (s.procs i))
    (hdry : (parties i).args.dryRun = true) : Alongside parties (s.stepAt policy.handle i) s' := by
  have hother : ∀ j, (parties j).args.dryRun = false → j ≠ i := by
    rintro j hj rfl
    rw [hdry] at hj
    simp at hj
  have hprocs : ∀ j, (parties j).args.dryRun = false →
      (s.stepAt policy.handle i).procs j = s'.procs j :=
    fun j hj => (Network.stepAt_of_ne s (hother j hj)).1.trans (h.procs j hj)
  have htrails : ∀ j, (parties j).args.dryRun = false →
      (s.stepAt policy.handle i).trails j = s'.trails j :=
    fun j hj => (Network.stepAt_of_ne s (hother j hj)).2.trans (h.trails j hj)
  have hserver : (s.stepAt policy.handle i).server = s.server ∨
      ∃ body, body.dryRun ≠ none ∧ (s.stepAt policy.handle i).server =
        (policy.handle s.server (.createReservation body)).2 := by
    rcases hproc : s.procs i with value | ⟨request, next⟩ | ⟨mark, rest⟩
    · rw [Network.stepAt_of_done hproc]
      exact Or.inl rfl
    · rw [Network.stepAt_of_call hproc]
      rw [hproc] at hpath
      rcases Party.call_cases hpath with ⟨_, body, rfl, hbody⟩ | ⟨_, _, hreal⟩
      · refine Or.inr ⟨body, ?_, rfl⟩
        rw [dryRun_of_reservationBody hbody, hdry]
        decide
      · rw [hdry] at hreal
        simp at hreal
    · rw [Network.stepAt_of_act hproc]
      exact Or.inl rfl
  rcases hserver with hserver | ⟨body, hdryBody, hserver⟩
  · refine ⟨hprocs, htrails, ?_, ?_, ?_⟩ <;> rw [hserver]
    · exact h.world
    · exact h.recorded
    · exact h.later
  · refine ⟨hprocs, htrails, ?_, ?_, ?_⟩ <;> rw [hserver]
    · rw [← h.world]
      refine (Protocol.handle_world).elim id ?_
      intro hfresh
      exact hfresh.trans (hpolicy.dryRun _ _ hdryBody)
    · intro bucket
      rcases hseen : s'.server.recorded bucket with _ | entry
      · exact Or.inl rfl
      · have hrecorded := (h.recorded bucket).resolve_left (by rw [hseen]; exact Option.some_ne_none _)
        rw [hseen] at hrecorded
        exact Or.inr (Protocol.handle_recorded_mono hrecorded)
    · intro bucket hphase
      refine (Protocol.handle_recorded_of_ne ?_).trans (h.later bucket hphase)
      rintro rfl
      exact hphase rfl

theorem Alongside.advance (h : Alongside parties s s') (event : GuardEvent) (rest : GuardProgram)
    {server server' : ServerState σ} (hworld : server.world = server'.world)
    (hrecorded : ∀ bucket, server'.recorded bucket = none ∨
      server.recorded bucket = server'.recorded bucket)
    (hlater : ∀ bucket, bucket.1 ≠ .reserve →
      server.recorded bucket = server'.recorded bucket) :
    Alongside parties (s.advance i server event rest) (s'.advance i server' event rest) := by
  refine ⟨?_, ?_, hworld, hrecorded, hlater⟩
  · intro j hj
    by_cases hji : j = i
    · subst hji
      rw [Network.advance_procs_self, Network.advance_procs_self]
    · rw [Network.advance_procs_of_ne _ _ _ _ _ hji, Network.advance_procs_of_ne _ _ _ _ _ hji]
      exact h.procs j hj
  · intro j hj
    by_cases hji : j = i
    · subst hji
      rw [Network.advance_trails_self, Network.advance_trails_self, h.trails j hj]
    · rw [Network.advance_trails_of_ne _ _ _ _ _ hji, Network.advance_trails_of_ne _ _ _ _ _ hji]
      exact h.trails j hj

/-- A step of a payment, when it finds the record of its key alike. -/
theorem Alongside.payment (h : Alongside parties s s')
    (hreal : (parties i).args.dryRun = false)
    (hrecord : ∀ request next, s.procs i = .call request next →
      s.server.recorded request.bucket = s'.server.recorded request.bucket) :
    Alongside parties (s.stepAt policy.handle i) (s'.stepAt policy.handle i) := by
  have hproc' := h.procs i hreal
  rcases hproc : s.procs i with value | ⟨request, next⟩ | ⟨mark, rest⟩
  · rw [Network.stepAt_of_done hproc, Network.stepAt_of_done (hproc'.symm.trans hproc)]
    exact h
  · obtain ⟨hreply, hworld, hrecorded⟩ : (policy.handle s.server request).1 =
          (policy.handle s'.server request).1 ∧
        (policy.handle s.server request).2.world = (policy.handle s'.server request).2.world ∧
        (policy.handle s.server request).2.recorded request.bucket =
          (policy.handle s'.server request).2.recorded request.bucket :=
      Protocol.handle_congr (hrecord request next hproc) h.world
    have hother : ∀ (l : ServerState σ) bucket, bucket ≠ request.bucket →
        (policy.handle l request).2.recorded bucket = l.recorded bucket :=
      fun _ _ hne => Protocol.handle_recorded_of_ne hne
    rw [Network.stepAt_of_call hproc, Network.stepAt_of_call (hproc'.symm.trans hproc), ← hreply]
    refine h.advance _ _ hworld ?_ ?_
    · intro bucket
      by_cases hbucket : bucket = request.bucket
      · exact Or.inr (hbucket ▸ hrecorded)
      · rw [hother _ _ hbucket, hother _ _ hbucket]
        exact h.recorded bucket
    · intro bucket hphase
      by_cases hbucket : bucket = request.bucket
      · exact hbucket ▸ hrecorded
      · rw [hother _ _ hbucket, hother _ _ hbucket]
        exact h.later bucket hphase
  · rw [Network.stepAt_of_act hproc, Network.stepAt_of_act (hproc'.symm.trans hproc)]
    exact h.advance _ _ h.world h.recorded h.later

end Alongside

/-! ### What comes of a payment -/

theorem ne_of_take {a b : String} (n : Nat) (ha : n ≤ a.toList.length) (hb : n ≤ b.toList.length)
    (h : a.toList.take n ≠ b.toList.take n) (x y : String) : a ++ x ≠ b ++ y := by
  intro heq
  have htake := congrArg (fun s => s.toList.take n) heq
  simp only [String.toList_append, List.take_append_of_le_length ha,
    List.take_append_of_le_length hb] at htake
  exact h htake

/-- A guard reports a failed reserve with this error exactly when the reserve was
    answered with it. -/
theorem hasError_iff_refused {args : GuardArgs} {outcome : Outcome} {code : String} :
    outcome.HasError code ↔ ∃ decision requestId, admission args outcome =
      .refused decision (.guardDenied
        s!"AP2 reservation failed for transaction {args.mandate.transactionId.val}"
        (some code) requestId) := by
  constructor
  · rintro ⟨response, error, rfl, hsuccess, herror, rfl⟩
    refine ⟨none, requestIdOf (some error), ?_⟩
    dsimp only [admission]
    rw [if_pos hsuccess, herror]
    rfl
  · rintro ⟨decision, requestId, h⟩
    rcases outcome with response | exc
    · dsimp only [admission] at h
      by_cases hsuccess : response.isSuccess = false
      · rw [if_pos hsuccess] at h
        rcases herror : response.getErrorResponse with exc | error
        · simp [herror] at h
        · simp only [herror, Admission.refused.injEq, PyExc.guardDenied.injEq] at h
          obtain ⟨body, rfl, hcode⟩ := Option.map_eq_some_iff.mp h.2.2.1
          exact ⟨response, body, rfl, hsuccess, herror, hcode⟩
      · rw [if_neg hsuccess] at h
        rcases hresult : response.createResult with exc | result
        · simp [hresult] at h
        · -- after a 2xx the guard reports in other words
          simp only [hresult, admissionOfResult] at h
          by_cases hdenied : result.isDenied = true
          · rw [if_pos hdenied, Admission.refused.injEq, PyExc.guardDenied.injEq] at h
            have hmessage := h.2.1
            simp only [String.append_assoc] at hmessage
            exact absurd hmessage (ne_of_take 17 (by decide) (by decide) (by decide) _ _)
          · rw [if_neg hdenied] at h
            by_cases hdry : args.dryRun = true
            · rw [if_pos hdry] at h
              simp at h
            · rw [if_neg hdry] at h
              rcases hid : result.reservationId with _ | id
              · simp only [hid, Admission.refused.injEq, PyExc.guardDenied.injEq] at h
                have hmessage := String.append_empty.trans h.2.1
                exact absurd hmessage (ne_of_take 17 (by decide) (by decide) (by decide) _ _)
              · simp [hid] at h
    · simp [admission] at h

/-- What comes of a guard: the bodies it started and, once it is left, its
    exception and the reservation it holds. -/
def outcomeOf (s : GuardNetwork ι σ) (i : ι) :
    List Mark × Option (Except PyExc Unit × Option String) :=
  (actions (s.trails i), (s.procs i).result?.map fun result => (result.1, result.2.reservationId))

/-- A guard that has done anything has seen the answer to its reserve. -/
theorem Party.answered {py : Python} {party : Party} {trail : List GuardEvent} {p : GuardProgram}
    (h : Program.Path (party.program py) trail p) {body : ReservationBody}
    (hbody : party.args.reservationBody py = .ok body) (htrail : trail ≠ []) :
    ∃ reserve rest, trail = .exchange (.createReservation body) reserve :: rest ∧
      ((∃ decision e, admission party.args reserve = .refused decision e ∧ rest = [] ∧
          p = .done (.error e, { GuardState.init party.args with decision := decision })) ∨
        ∃ decision reservationId, admission party.args reserve = .admitted decision reservationId ∧
          (p.result? = none ∨ actions rest ≠ [])) := by
  rw [Party.program_of_body hbody] at h
  rcases Program.path_call_iff.mp h with ⟨hnil, _⟩ | ⟨reserve, rest, rfl, hrest⟩
  · exact absurd hnil htrail
  refine ⟨reserve, rest, rfl, ?_⟩
  rcases hadmission : admission party.args reserve with ⟨decision, e⟩ | ⟨decision, reservationId⟩
  · rw [hadmission] at hrest
    obtain ⟨rfl, rfl⟩ := Program.path_done_iff.mp hrest
    exact Or.inl ⟨decision, e, rfl, rfl, rfl⟩
  · rw [hadmission] at hrest
    refine Or.inr ⟨decision, reservationId, rfl, ?_⟩
    rcases Program.path_act_iff.mp hrest with ⟨_, rfl⟩ | ⟨rest, rfl, _⟩
    · exact Or.inl rfl
    · exact Or.inr (List.cons_ne_nil _ _)

/-- No dry run is the first to post under the lock of a payment, as far as the
    server has no record of that lock. -/
def DryRunsFollow (py : Python) (parties : ι → Party) (l : ServerState σ) (schedule : List ι) :
    Prop :=
  ∀ i ∈ schedule, (parties i).args.dryRun = false →
    (∃ micros, (parties i).args.mandate.amountMicros py = .ok micros) →
      l.recorded (reserveBucket py (parties i).args.mandate) = none →
        ∀ j, firstPoster py parties schedule (parties i).args.mandate = some j →
          (parties j).args.dryRun = false

section Runs

variable {policy : Policy σ} {py : Python} {parties : ι → Party} {l : ServerState σ}
  {schedule : List ι}

omit [DecidableEq ι] in
theorem DryRunsFollow.of_snoc {i : ι} (h : DryRunsFollow py parties l (schedule ++ [i])) :
    DryRunsFollow py parties l schedule := by
  intro i' hmem hreal haccepted hunseen j hfirst
  refine h i' (List.mem_append_left _ hmem) hreal haccepted hunseen j ?_
  rw [firstPoster_snoc, hfirst]
  rfl

/-- The run with the dry runs and the run without them, in which no dry run came
    first. -/
theorem DryRunsFollow.alongside (hpolicy : policy.Documented)
    (h : DryRunsFollow py parties l schedule) :
    Alongside parties (policy.play py parties l schedule)
      (policy.play py parties l (payments parties schedule)) := by
  induction schedule using List.reverseRecOn with
  | nil => exact ⟨fun _ _ => rfl, fun _ _ => rfl, rfl, fun _ => Or.inr rfl, fun _ _ => rfl⟩
  | append_singleton schedule i ih =>
    have halong := ih h.of_snoc
    have hpath := policy.path py parties l schedule i
    have hplay : ∀ schedule, policy.play py parties l (schedule ++ [i]) =
        (policy.play py parties l schedule).stepAt policy.handle i :=
      fun schedule => Network.play_snoc ..
    rcases hdry : (parties i).args.dryRun with _ | _
    · have hpayments : payments parties (schedule ++ [i]) = payments parties schedule ++ [i] := by
        simp [payments, hdry]
      rw [hpayments, hplay, hplay]
      refine halong.payment hdry ?_
      intro request next hcall
      rw [hcall] at hpath
      rcases Party.call_cases hpath with ⟨_, body, rfl, hbody⟩ | ⟨_, hphase, _⟩
      · rw [bucket_of_reservationBody hbody]
        refine (halong.recorded _).elim ?_ id
        intro hnone
        obtain ⟨hunseen, hnobody⟩ := Policy.recorded_none_iff.mp hnone
        -- a first poster before this step would be a payment, and so in both runs
        have hnofirst : firstPoster py parties schedule (parties i).args.mandate = none := by
          rcases hfirst : firstPoster py parties schedule (parties i).args.mandate with _ | j
          · rfl
          · have hreal := h i (List.mem_append_right _ (List.mem_singleton.mpr rfl)) hdry
              ⟨_, amountMicros_of_reservationBody hbody⟩ hunseen j
              (by rw [firstPoster_snoc, hfirst]; rfl)
            obtain ⟨hmem, hposts⟩ := body_of_firstPoster hfirst
            have hmem' : j ∈ payments parties schedule := by simp [payments, hmem, hreal]
            exact absurd (Party.posts_iff.mpr hposts) (List.find?_eq_none.mp hnobody j hmem')
        exact (Policy.recorded_none_iff.mpr ⟨hunseen, hnofirst⟩).trans hnone.symm
      · exact halong.later _ hphase
    · have hpayments : payments parties (schedule ++ [i]) = payments parties schedule := by
        simp [payments, hdry]
      rw [hpayments, hplay]
      exact halong.dryRun hpolicy hpath hdry

/-- The dry runs change neither what comes of a payment nor the number of
    reservations. -/
structure Undisturbed (policy : Policy σ) (py : Python) (parties : ι → Party) (l : ServerState σ)
    (schedule : List ι) : Prop where
  outcomes : ∀ i, (parties i).args.dryRun = false →
    outcomeOf (policy.play py parties l schedule) i =
      outcomeOf (policy.play py parties l (payments parties schedule)) i
  reservations : (policy.play py parties l schedule).server.world.reservations.length =
    (policy.play py parties l (payments parties schedule)).server.world.reservations.length

/-- A guard that posts under a lock which another request took first sees the
    mismatch. -/
theorem Policy.clash_of_firstPoster {i j : ι} {mandate : AP2Mandate}
    {body body' : ReservationBody} {reserve : Outcome}
    (hbucket : reserveBucket py mandate = (Request.createReservation body).bucket)
    (hbody' : (parties j).args.reservationBody py = .ok body') (hne : body' ≠ body)
    (hunseen : l.recorded (reserveBucket py mandate) = none)
    (hfirst : firstPoster py parties schedule mandate = some j)
    (hsaw : Event.exchange (.createReservation body) reserve ∈
      (policy.play py parties l schedule).trails i) :
    reserve = policy.clash := by
  obtain ⟨outcome, hrecorded⟩ := Policy.recorded_of_firstPoster hunseen hfirst hbody'
  rw [hbucket] at hrecorded
  rcases (policy.told py parties l schedule).2 i _ reserve hsaw with hrecorded' | ⟨hclash, _⟩
  · cases hrecorded.symm.trans hrecorded'
    exact absurd rfl hne
  · exact hclash

/-- A guard that is the first to post under a lock does not see the mismatch. -/
theorem Policy.no_mismatch_of_firstPoster (hpolicy : policy.Documented) {i : ι}
    {mandate : AP2Mandate} {body : ReservationBody} {reserve : Outcome}
    (hbucket : reserveBucket py mandate = (Request.createReservation body).bucket)
    (hbody : (parties i).args.reservationBody py = .ok body)
    (hunseen : l.recorded (reserveBucket py mandate) = none)
    (hfirst : firstPoster py parties schedule mandate = some i)
    (hsaw : Event.exchange (.createReservation body) reserve ∈
      (policy.play py parties l schedule).trails i) :
    ¬ reserve.HasError "IDEMPOTENCY_MISMATCH" := by
  obtain ⟨outcome, hrecorded⟩ := Policy.recorded_of_firstPoster hunseen hfirst hbody
  rw [hbucket] at hunseen hrecorded
  obtain ⟨hold, htold⟩ := policy.told py parties l schedule
  rcases htold i _ reserve hsaw with hrecorded' | ⟨_, request, outcome', hrecorded', hother⟩
  · rcases hold _ _ hrecorded' with hseen | ⟨books, hbooks⟩
    · simp [hunseen] at hseen
    · dsimp only at hbooks
      rw [hbooks]
      exact hpolicy.unseen books _
  · cases hrecorded.symm.trans hrecorded'
    exact absurd rfl hother

/-- A payment that posts under a key recorded for a dry run is turned down, which
    shows in its outcome. -/
theorem outcomes_differ (hpolicy : policy.Documented) {schedule' : List ι} {i j : ι}
    {mandate : AP2Mandate} {body body' : ReservationBody} (hmem : i ∈ schedule)
    (hbody : (parties i).args.reservationBody py = .ok body)
    (hbody' : (parties j).args.reservationBody py = .ok body') (hne : body' ≠ body)
    (hunseen : l.recorded (reserveBucket py mandate) = none)
    (hfirst : firstPoster py parties schedule mandate = some j)
    (hfirst' : firstPoster py parties schedule' mandate = some i) :
    outcomeOf (policy.play py parties l schedule) i ≠
      outcomeOf (policy.play py parties l schedule') i := by
  intro heq
  obtain ⟨hmem', _, _, hlock⟩ := body_of_firstPoster hfirst'
  have hbucket := hlock.trans (bucket_of_reservationBody hbody).symm
  obtain ⟨reserve, rest, htrail, hleft⟩ := Party.answered (policy.path py parties l schedule i)
    hbody (Policy.trails_ne_nil hmem hbody)
  obtain ⟨reserve', rest', htrail', hleft'⟩ :=
    Party.answered (policy.path py parties l schedule' i) hbody
      (Policy.trails_ne_nil hmem' hbody)
  have hclash : reserve = policy.clash :=
    Policy.clash_of_firstPoster hbucket hbody' hne hunseen hfirst
      (by rw [htrail]; exact List.mem_cons_self ..)
  have hfresh : ¬ reserve'.HasError "IDEMPOTENCY_MISMATCH" :=
    Policy.no_mismatch_of_firstPoster hpolicy hbucket hbody hunseen hfirst'
      (by rw [htrail']; exact List.mem_cons_self ..)
  -- in the first run the guard is refused, with the mismatch
  have hmismatch := policy.mismatch
  rw [← hclash] at hmismatch
  obtain ⟨decision, requestId, hrefused⟩ := hasError_iff_refused.mp hmismatch
  rcases hleft with ⟨decision', e, hrefused', rfl, hproc⟩ | ⟨_, _, hadmitted, _⟩
  · cases hrefused.symm.trans hrefused'
    unfold outcomeOf at heq
    rw [htrail, hproc, htrail'] at heq
    rcases hleft' with ⟨decision'', e', hrefused'', rfl, hproc'⟩ | ⟨_, _, _, hgoes⟩
    · rw [hproc'] at heq
      cases heq
      exact hfresh (hasError_iff_refused.mpr ⟨_, _, hrefused''⟩)
    · rcases hgoes with hnone | hactions
      · rw [hnone] at heq
        cases congrArg Prod.snd heq
      · exact hactions (congrArg Prod.fst heq).symm
  · cases hrefused.symm.trans hadmitted

omit [DecidableEq ι] in
/-- A dry run and a payment under one lock post different bodies under one key. -/
theorem dryRun_shares_key {i j : ι} {body body' : ReservationBody}
    (hlock : SameLock py (parties i).args.mandate (parties j).args.mandate)
    (hdry : (parties i).args.dryRun = true) (hreal : (parties j).args.dryRun = false)
    (hbody : (parties i).args.reservationBody py = .ok body)
    (hbody' : (parties j).args.reservationBody py = .ok body') :
    body.idempotencyKey = body'.idempotencyKey ∧ body ≠ body' := by
  constructor
  · rw [key_of_reservationBody hbody, key_of_reservationBody hbody']
    exact congrArg Prod.snd (reserveBucket_eq_iff.mpr hlock)
  · rintro rfl
    have hflag := dryRun_of_reservationBody hbody
    rw [dryRun_of_reservationBody hbody', hdry, hreal] at hflag
    simp at hflag

/-- **Dry runs leave payments alone exactly when none of them comes first.**  They
    always share the reserve key of the payments under their lock. -/
theorem undisturbed_iff (hpolicy : policy.Documented) :
    (Undisturbed policy py parties l schedule ↔ DryRunsFollow py parties l schedule) ∧
      ∀ i j body body', SameLock py (parties i).args.mandate (parties j).args.mandate →
        (parties i).args.dryRun = true → (parties j).args.dryRun = false →
        (parties i).args.reservationBody py = .ok body →
        (parties j).args.reservationBody py = .ok body' →
        body.idempotencyKey = body'.idempotencyKey ∧ body ≠ body' := by
  refine ⟨?_, fun _ _ _ _ => dryRun_shares_key⟩
  constructor
  · rintro h i hmem hreal ⟨micros, haccepted⟩ hunseen j hfirst
    by_contra hdry
    obtain ⟨body, hbody⟩ := reservationBody_of_amountMicros haccepted
    obtain ⟨_, body', hbody', hlock'⟩ := body_of_firstPoster hfirst
    -- the first payment under this lock is turned down
    have hmem' : i ∈ payments parties schedule := by simp [payments, hmem, hreal]
    rcases hfirst' : firstPoster py parties (payments parties schedule) (parties i).args.mandate
      with _ | i'
    · exact absurd (Party.posts_iff.mpr ⟨body, hbody, rfl⟩)
        (List.find?_eq_none.mp hfirst' i hmem')
    · obtain ⟨hmem'', body'', hbody'', hlock''⟩ := body_of_firstPoster hfirst'
      obtain ⟨hmemBoth, hreal'⟩ := List.mem_filter.mp hmem''
      have hpayment : (parties i').args.dryRun = false := by simpa using hreal'
      have hlock := reserveBucket_eq_iff.mp (hlock'.symm.trans hlock'')
      have hne := (dryRun_shares_key hlock (by simpa using hdry) hpayment hbody' hbody'').2
      exact outcomes_differ hpolicy hmemBoth hbody'' hbody' hne hunseen hfirst hfirst'
        (h.outcomes i' hpayment)
  · intro h
    have halong := h.alongside hpolicy
    refine ⟨?_, by rw [halong.world]⟩
    intro i hreal
    unfold outcomeOf
    rw [halong.procs i hreal, halong.trails i hreal]

end Runs

theorem Policy.sample_documented : Policy.sample.Documented := by
  constructor
  · intro books body hdry
    dsimp only [Policy.sample]
    rw [if_neg hdry]
  · rintro books request ⟨response, error, hresponse, hsuccess, _⟩
    rcases request with body | ⟨reservationId, body⟩ | ⟨reservationId, body⟩
    · dsimp only [Policy.sample] at hresponse
      by_cases hreal : body.dryRun = none
      · rw [if_pos hreal] at hresponse
        cases hresponse
        cases hsuccess
      · rw [if_neg hreal] at hresponse
        cases hresponse
        cases hsuccess
    · cases hresponse
      cases hsuccess
    · cases hresponse
      cases hsuccess

def probeAndPayment (probe : Bool) : Party where
  args := { GuardArgs.sample with dryRun := probe }
  body := { calls := [] }

/-- The dry run comes between the reserve and the body of the payment. -/
theorem undisturbed_iff_paymentFirst :
    Undisturbed Policy.sample .sample probeAndPayment (.empty ()) [false, true, false] := by
  refine (undisturbed_iff Policy.sample_documented).1.mpr ?_
  intro i _ _ _ _ j hfirst
  have hpayment : firstPoster .sample probeAndPayment [false, true, false]
      AP2Mandate.sample = some false := by decide
  cases hpayment.symm.trans hfirst
  rfl

/-- The dry run comes first: the payment does not start its body any more. -/
theorem probe_disturbs_payment :
    Policy.sample.Documented ∧
      ¬ Undisturbed Policy.sample .sample probeAndPayment (.empty ()) [true, false, false] := by
  refine ⟨Policy.sample_documented, ?_⟩
  intro h
  have hactions := congrArg Prod.fst (h.outcomes false rfl)
  revert hactions
  decide

end CyclesAP2
