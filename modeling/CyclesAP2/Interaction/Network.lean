import CyclesAP2.Interaction.Program

/-!
# Concurrent programs against one server

Any number of programs run against one server, in any order, one request or
action at a time.  The server is a relation: what it may answer to a request, and
the state it is then in.  The network may lose messages: a request that never
reaches the server, or a reply that never reaches its program, which in both
cases goes on with some reply that `unheard` allows.

`Reachable.path` says that each program follows one of its own paths.  The rule
for safety properties is `Reachable.invariant`: an invariant of the server that
every service keeps, together with a fact about each exchange that was seen, true
when the exchange takes place and kept by every later service.

`play` runs a network deterministically along a schedule; every such run is
reachable (`play_reachable`).
-/

namespace Interaction

/-- A server in state `server` and, for each index, what is left of a program and
    the trail of what it has done. -/
structure Network (ι σ Q R A α : Type) where
  server : σ
  procs : ι → Program Q R A α
  trails : ι → List (Event Q R A)

namespace Network

variable {ι σ Q R A α : Type} [DecidableEq ι]

def start (server : σ) (programs : ι → Program Q R A α) : Network ι σ Q R A α where
  server := server
  procs := programs
  trails := fun _ => []

def advance (s : Network ι σ Q R A α) (i : ι) (server : σ) (event : Event Q R A)
    (rest : Program Q R A α) : Network ι σ Q R A α where
  server := server
  procs := Function.update s.procs i rest
  trails := Function.update s.trails i (s.trails i ++ [event])

section Advance

variable (s : Network ι σ Q R A α) (i : ι) (server : σ) (event : Event Q R A)
  (rest : Program Q R A α)

@[simp] theorem advance_server : (s.advance i server event rest).server = server := rfl

@[simp] theorem advance_procs_self : (s.advance i server event rest).procs i = rest :=
  Function.update_self ..

@[simp] theorem advance_trails_self :
    (s.advance i server event rest).trails i = s.trails i ++ [event] :=
  Function.update_self ..

theorem advance_procs_of_ne {j : ι} (h : j ≠ i) :
    (s.advance i server event rest).procs j = s.procs j :=
  Function.update_of_ne h ..

theorem advance_trails_of_ne {j : ι} (h : j ≠ i) :
    (s.advance i server event rest).trails j = s.trails j :=
  Function.update_of_ne h ..

theorem mem_advance_trails {e : Event Q R A} {j : ι} :
    e ∈ (s.advance i server event rest).trails j ↔ e ∈ s.trails j ∨ j = i ∧ e = event := by
  by_cases hj : j = i
  · subst hj
    simp
  · rw [advance_trails_of_ne _ _ _ _ _ hj]
    simp [hj]

end Advance

inductive Step (serve : σ → Q → R → σ → Prop) (unheard : R → Prop) :
    Network ι σ Q R A α → Network ι σ Q R A α → Prop where
  | exchange {s : Network ι σ Q R A α} {i : ι} {q : Q} {next : R → Program Q R A α} {r : R}
      {server : σ} (hcall : s.procs i = .call q next) (hserve : serve s.server q r server) :
      Step serve unheard s (s.advance i server (.exchange q r) (next r))
  | lostReply {s : Network ι σ Q R A α} {i : ι} {q : Q} {next : R → Program Q R A α} {r r' : R}
      {server : σ} (hcall : s.procs i = .call q next) (hserve : serve s.server q r server)
      (hunheard : unheard r') :
      Step serve unheard s (s.advance i server (.exchange q r') (next r'))
  | lostRequest {s : Network ι σ Q R A α} {i : ι} {q : Q} {next : R → Program Q R A α} {r' : R}
      (hcall : s.procs i = .call q next) (hunheard : unheard r') :
      Step serve unheard s (s.advance i s.server (.exchange q r') (next r'))
  | act {s : Network ι σ Q R A α} {i : ι} {a : A} {rest : Program Q R A α}
      (hact : s.procs i = .act a rest) :
      Step serve unheard s (s.advance i s.server (.act a) rest)

theorem advance_trails_grow (s : Network ι σ Q R A α) (i : ι) (server : σ)
    (event : Event Q R A) (rest : Program Q R A α) (j : ι) :
    s.trails j <+: (s.advance i server event rest).trails j := by
  by_cases hj : j = i
  · subst hj
    rw [advance_trails_self]
    exact List.prefix_append ..
  · exact advance_trails_of_ne s i server event rest hj ▸ List.prefix_refl _

/-- What a program has done stays done. -/
theorem trails_grow {serve : σ → Q → R → σ → Prop} {unheard : R → Prop}
    {s s' : Network ι σ Q R A α} (h : Relation.ReflTransGen (Step serve unheard) s s') (j : ι) :
    s.trails j <+: s'.trails j := by
  induction h with
  | refl => exact List.prefix_refl _
  | tail _ hstep ih =>
    refine ih.trans ?_
    cases hstep <;> exact advance_trails_grow ..

/-- The networks that some interleaving with some losses leads to. -/
def Reachable (serve : σ → Q → R → σ → Prop) (unheard : R → Prop) (server : σ)
    (programs : ι → Program Q R A α) (s : Network ι σ Q R A α) : Prop :=
  Relation.ReflTransGen (Step serve unheard) (start server programs) s

/-! ### What holds along every run -/

section Runs

variable {serve : σ → Q → R → σ → Prop} {unheard : R → Prop} {server : σ}
  {programs : ι → Program Q R A α} {s : Network ι σ Q R A α}

theorem path_advance {i : ι} {server : σ} {event : Event Q R A} {rest : Program Q R A α}
    (h : ∀ i, Program.Path (programs i) (s.trails i) (s.procs i))
    (hi : Program.Path (programs i) (s.trails i ++ [event]) rest) (j : ι) :
    Program.Path (programs j) ((s.advance i server event rest).trails j)
      ((s.advance i server event rest).procs j) := by
  by_cases hj : j = i
  · subst hj
    rw [advance_trails_self, advance_procs_self]
    exact hi
  · rw [advance_trails_of_ne _ _ _ _ _ hj, advance_procs_of_ne _ _ _ _ _ hj]
    exact h j

theorem Step.path {s' : Network ι σ Q R A α} (hstep : Step serve unheard s s')
    (h : ∀ i, Program.Path (programs i) (s.trails i) (s.procs i)) (j : ι) :
    Program.Path (programs j) (s'.trails j) (s'.procs j) := by
  cases hstep with
  | exchange hcall hserve => exact path_advance h (.snoc_exchange (hcall ▸ h _) _) j
  | lostReply hcall hserve hunheard => exact path_advance h (.snoc_exchange (hcall ▸ h _) _) j
  | lostRequest hcall hunheard => exact path_advance h (.snoc_exchange (hcall ▸ h _) _) j
  | act hact => exact path_advance h (.snoc_act (hact ▸ h _)) j

/-- **Each program follows one of its own paths**, whatever the others do. -/
theorem Reachable.path (h : Reachable serve unheard server programs s) (i : ι) :
    Program.Path (programs i) (s.trails i) (s.procs i) := by
  revert i
  induction h with
  | refl =>
    intro i
    exact .here _
  | tail _ hstep ih =>
    intro i
    exact hstep.path ih i

/-- What a service has to keep for the rule below: the invariant, the new fact
    about this exchange, and every earlier fact. -/
structure Keeps (serve : σ → Q → R → σ → Prop) (Issued : Q → Prop) (Inv : σ → Prop)
    (Seen : σ → Q → R → Prop) : Prop where
  inv : ∀ {server q r server'}, Inv server → Issued q → serve server q r server' → Inv server'
  seen : ∀ {server q r server'}, Inv server → Issued q → serve server q r server' →
    Seen server' q r
  stable : ∀ {server q r server' q' r'}, Inv server → Issued q → serve server q r server' →
    Seen server q' r' → Seen server' q' r'

theorem Step.invariant {Issued : Q → Prop} {Inv : σ → Prop} {Seen : σ → Q → R → Prop}
    {s' : Network ι σ Q R A α} (hkeeps : Keeps serve Issued Inv Seen)
    (hunheard : ∀ {server q r}, unheard r → Seen server q r)
    (hissued : ∀ i q next, s.procs i = .call q next → Issued q)
    (hstep : Step serve unheard s s')
    (h : Inv s.server ∧ ∀ i q r, Event.exchange q r ∈ s.trails i → Seen s.server q r) :
    Inv s'.server ∧ ∀ i q r, Event.exchange q r ∈ s'.trails i → Seen s'.server q r := by
  obtain ⟨hinv, hseen⟩ := h
  cases hstep with
  | @exchange i q next r server hcall hserve =>
    have hq := hissued i q next hcall
    refine ⟨hkeeps.inv hinv hq hserve, ?_⟩
    intro j q' r' hmem
    rcases (mem_advance_trails ..).mp hmem with hmem | ⟨_, heq⟩
    · exact hkeeps.stable hinv hq hserve (hseen j q' r' hmem)
    · cases heq
      exact hkeeps.seen hinv hq hserve
  | @lostReply i q next r r' server hcall hserve hr' =>
    have hq := hissued i q next hcall
    refine ⟨hkeeps.inv hinv hq hserve, ?_⟩
    intro j q' r'' hmem
    rcases (mem_advance_trails ..).mp hmem with hmem | ⟨_, heq⟩
    · exact hkeeps.stable hinv hq hserve (hseen j q' r'' hmem)
    · cases heq
      exact hunheard hr'
  | lostRequest hcall hr' =>
    refine ⟨hinv, ?_⟩
    intro j q' r'' hmem
    rcases (mem_advance_trails ..).mp hmem with hmem | ⟨_, heq⟩
    · exact hseen j q' r'' hmem
    · cases heq
      exact hunheard hr'
  | act hact =>
    refine ⟨hinv, ?_⟩
    intro j q' r' hmem
    rcases (mem_advance_trails ..).mp hmem with hmem | ⟨_, heq⟩
    · exact hseen j q' r' hmem
    · simp at heq

/-- **The invariant rule.**  `Issued` holds of every request a program can make. -/
theorem Reachable.invariant {Issued : Q → Prop} {Inv : σ → Prop} {Seen : σ → Q → R → Prop}
    (hkeeps : Keeps serve Issued Inv Seen)
    (hunheard : ∀ {server q r}, unheard r → Seen server q r)
    (hissued : ∀ i trail q next, Program.Path (programs i) trail (.call q next) → Issued q)
    (hinit : Inv server) (h : Reachable serve unheard server programs s) :
    Inv s.server ∧ ∀ i q r, Event.exchange q r ∈ s.trails i → Seen s.server q r := by
  induction h with
  | refl => exact ⟨hinit, fun i q r hmem => nomatch hmem⟩
  | tail hreach hstep ih =>
    refine hstep.invariant hkeeps hunheard ?_ ih
    intro i q next hcall
    have hpath := Reachable.path hreach i
    rw [hcall] at hpath
    exact hissued i _ q next hpath

end Runs

/-! ### Deterministic runs -/

section Play

variable (handle : σ → Q → R × σ)

/-- The next step of program `i`, against a server that is a function. -/
def stepAt (s : Network ι σ Q R A α) (i : ι) : Network ι σ Q R A α :=
  match s.procs i with
  | .done _ => s
  | .call q next =>
    let (r, server) := handle s.server q
    s.advance i server (.exchange q r) (next r)
  | .act a rest => s.advance i s.server (.act a) rest

/-- The steps of a schedule, without losses. -/
def play (schedule : List ι) (s : Network ι σ Q R A α) : Network ι σ Q R A α :=
  schedule.foldl (stepAt handle) s

theorem play_snoc (schedule : List ι) (i : ι) (s : Network ι σ Q R A α) :
    s.play handle (schedule ++ [i]) = (s.play handle schedule).stepAt handle i := by
  rw [play, List.foldl_append]
  rfl

variable {handle}

theorem stepAt_of_done {s : Network ι σ Q R A α} {i : ι} {value : α}
    (h : s.procs i = .done value) : s.stepAt handle i = s := by
  simp only [stepAt, h]

theorem stepAt_of_call {s : Network ι σ Q R A α} {i : ι} {q : Q} {next : R → Program Q R A α}
    (h : s.procs i = .call q next) :
    s.stepAt handle i = s.advance i (handle s.server q).2 (.exchange q (handle s.server q).1)
      (next (handle s.server q).1) := by
  simp only [stepAt, h]

theorem stepAt_of_act {s : Network ι σ Q R A α} {i : ι} {a : A} {rest : Program Q R A α}
    (h : s.procs i = .act a rest) : s.stepAt handle i = s.advance i s.server (.act a) rest := by
  simp only [stepAt, h]

theorem stepAt_of_ne (s : Network ι σ Q R A α) {i j : ι} (h : j ≠ i) :
    (s.stepAt handle i).procs j = s.procs j ∧ (s.stepAt handle i).trails j = s.trails j := by
  rcases hproc : s.procs i with value | ⟨q, next⟩ | ⟨a, rest⟩
  · rw [stepAt_of_done hproc]
    exact ⟨rfl, rfl⟩
  · rw [stepAt_of_call hproc]
    exact ⟨advance_procs_of_ne _ _ _ _ _ h, advance_trails_of_ne _ _ _ _ _ h⟩
  · rw [stepAt_of_act hproc]
    exact ⟨advance_procs_of_ne _ _ _ _ _ h, advance_trails_of_ne _ _ _ _ _ h⟩

theorem stepAt_trails_grow (s : Network ι σ Q R A α) (i j : ι) :
    s.trails j <+: (s.stepAt handle i).trails j := by
  rcases hproc : s.procs i with value | ⟨q, next⟩ | ⟨a, rest⟩
  · exact (stepAt_of_done hproc).symm ▸ List.prefix_refl _
  · rw [stepAt_of_call hproc]
    exact advance_trails_grow ..
  · rw [stepAt_of_act hproc]
    exact advance_trails_grow ..

/-- A program with something left to do leaves a trail when it is scheduled. -/
theorem stepAt_trails_ne_nil (s : Network ι σ Q R A α) {i : ι}
    (h : ∀ value, s.procs i ≠ .done value) : (s.stepAt handle i).trails i ≠ [] := by
  rcases hproc : s.procs i with value | ⟨q, next⟩ | ⟨a, rest⟩
  · exact absurd hproc (h value)
  · rw [stepAt_of_call hproc]
    simp
  · rw [stepAt_of_act hproc]
    simp

theorem play_trails_ne_nil {schedule : List ι} {i : ι} (hmem : i ∈ schedule)
    (s : Network ι σ Q R A α)
    (h : s.trails i ≠ [] ∨ ∀ value, s.procs i ≠ .done value) :
    (s.play handle schedule).trails i ≠ [] := by
  have hstay : ∀ (schedule : List ι) (s : Network ι σ Q R A α), s.trails i ≠ [] →
      (s.play handle schedule).trails i ≠ [] := by
    intro schedule
    induction schedule with
    | nil => exact fun s hs => hs
    | cons j schedule ih =>
      intro s hs
      exact ih (s.stepAt handle j) ((stepAt_trails_grow s j i).ne_nil hs)
  induction schedule generalizing s with
  | nil => cases hmem
  | cons j schedule ih =>
    change ((s.stepAt handle j).play handle schedule).trails i ≠ []
    by_cases hj : j = i
    · subst hj
      refine hstay schedule _ ?_
      rcases h with h | h
      · exact (stepAt_trails_grow s j j).ne_nil h
      · exact stepAt_trails_ne_nil s h
    · have hmem' := (List.mem_cons.mp hmem).resolve_left (Ne.symm hj)
      obtain ⟨hprocs, htrails⟩ : (s.stepAt handle j).procs i = s.procs i ∧
          (s.stepAt handle j).trails i = s.trails i := stepAt_of_ne s (Ne.symm hj)
      refine ih hmem' (s.stepAt handle j) ?_
      rw [hprocs, htrails]
      exact h

theorem play_of_notMem {schedule : List ι} {j : ι} (h : j ∉ schedule)
    (s : Network ι σ Q R A α) :
    (s.play handle schedule).procs j = s.procs j ∧
      (s.play handle schedule).trails j = s.trails j := by
  induction schedule generalizing s with
  | nil => exact ⟨rfl, rfl⟩
  | cons i schedule ih =>
    rw [List.mem_cons, not_or] at h
    obtain ⟨hprocs, htrails⟩ : (s.stepAt handle i).procs j = s.procs j ∧
        (s.stepAt handle i).trails j = s.trails j := stepAt_of_ne s h.1
    rw [← hprocs, ← htrails]
    exact ih h.2 (s.stepAt handle i)

/-- What a schedule leads to is reachable, for a server the function belongs to. -/
theorem play_reachable {serve : σ → Q → R → σ → Prop} {unheard : R → Prop}
    (hserve : ∀ server q, serve server q (handle server q).1 (handle server q).2)
    (schedule : List ι) (s : Network ι σ Q R A α) :
    Relation.ReflTransGen (Step serve unheard) s (s.play handle schedule) := by
  induction schedule generalizing s with
  | nil => exact .refl
  | cons i schedule ih =>
    have hrest := ih (s.stepAt handle i)
    rcases hproc : s.procs i with value | ⟨q, next⟩ | ⟨a, rest⟩
    · rw [stepAt_of_done hproc] at hrest
      simpa only [play, List.foldl_cons, stepAt_of_done hproc] using hrest
    · refine .head ?_ hrest
      rw [stepAt_of_call hproc]
      exact .exchange hproc (hserve s.server q)
    · refine .head ?_ hrest
      rw [stepAt_of_act hproc]
      exact .act hproc

end Play

end Network

end Interaction
