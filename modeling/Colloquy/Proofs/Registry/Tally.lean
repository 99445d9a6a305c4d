import Colloquy.Proofs.Conversation.Entries
import Colloquy.Proofs.Registry.Boundary

/-!
# The tally of retried requests

The ledger tells requests that succeeded after retries from requests that failed after retries.  An
`Enquiry` is a request for a completion as its caller sees it: with the answer that comes back, and
with what the last attempt gave.

* `make_statistics`, over `registerWith_statistics` and `activateWith_statistics`: making backends
  leaves the ledger alone, whatever the makers do;
* `perform_statistics`: what one operation writes into the ledger;
* `performAll_tally`: the two figures of the ledger after a run, counted over its enquiries.

What counts is how the last attempt ended, not what is in the answer: an answer of the backend's own
that is an error is an answer to the loop (`reported_error_is_tallied_as_success`).
-/

namespace Colloquy.Registry

open Provider (Backend Completion Failure GivenUp Options ToolDefinition)

variable {r r₁ r₂ : Registry} {mk : Making} {name : String} {n : Nat}

/-! ### Making backends -/

/-- Whether a way of making backends leaves the ledger alone. -/
def Making.SparesLedger (mk : Making) : Prop :=
  ∀ r n source, (mk r n source).1.statistics = r.statistics

/-- A backend is made and prepared. -/
theorem Making.SparesLedger.prepare (hmk : mk.SparesLedger) {source : Source} {id : BackendId}
    {o : Options} {accepted : Bool} (hmake : mk r n source = (r₁, id))
    (hprep : r₁.prepareBackend id o = (r₂, accepted)) : r₂.statistics = r.statistics := by
  have hmade : r₁.statistics = r.statistics := congrArg (·.1.statistics) hmake ▸ hmk r n source
  have hprepared : (r₁.prepareBackend id o).1.statistics = r₁.statistics := rfl
  rw [hprep] at hprepared
  exact hprepared.trans hmade

theorem registerWith_statistics (hmk : mk.SparesLedger) {source : Source} {again : Nat} :
    (registerWith mk name source n again r).1.statistics = r.statistics := by
  fun_induction registerWith mk name source n again r with
  | case1 again r hact previous r₁ id hmake options r₂ accepted hprep hrej =>
    exact hmk.prepare hmake hprep
  | case2 again r entry hact previous r₁ id hmake options r₂ accepted hprep hacc hact' =>
    have hmade : r₂.statistics = r.statistics := hmk.prepare hmake hprep
    exact hmade
  | case3 r hact previous r₁ id hmake options r₂ accepted hprep hacc hact' =>
    exact hmk.prepare hmake hprep
  | case4 r hact previous r₁ id hmake options r₂ accepted hprep hacc hact' again ih =>
    exact ih.trans (hmk.prepare hmake hprep)
  | case5 again r entry hact => rfl

theorem activateWith_statistics (hmk : mk.SparesLedger) {again : Nat} :
    (activateWith mk name again r).1.statistics = r.statistics := by
  fun_induction activateWith mk name again r with
  | case1 again r hfind => rfl
  | case2 again r e hfind id hid => rfl
  | case3 again r e hfind hnone r₁ id hmake r₂ accepted hprep hrej =>
    exact hmk.prepare hmake hprep
  | case4 again r e hfind hnone r₁ id hmake r₂ accepted hprep hacc hgone =>
    exact hmk.prepare hmake hprep
  | case5 again r e hfind hnone r₁ id hmake r₂ accepted hprep hacc now hnow hsame =>
    have hmade : r₂.statistics = r.statistics := hmk.prepare hmake hprep
    exact hmade
  | case6 r e hfind hnone r₁ id hmake r₂ accepted hprep hacc now hnow hother =>
    exact hmk.prepare hmake hprep
  | case7 r e hfind hnone r₁ id hmake r₂ accepted hprep hacc now hnow hother again ih =>
    exact ih.trans (hmk.prepare hmake hprep)

/-- The backend of an entry, which is made if there is none yet, is prepared. -/
theorem Making.SparesLedger.prepareEntry (hmk : mk.SparesLedger) {e : Entry} {id : BackendId}
    {o : Options} {accepted : Bool}
    (hmake : (match e.backend with
      | some id => (r, id)
      | none => mk r e.registration e.source) = (r₁, id))
    (hprep : r₁.prepareBackend id o = (r₂, accepted)) : r₂.statistics = r.statistics := by
  cases hb : e.backend with
  | none =>
    rw [hb] at hmake
    exact hmk.prepare hmake hprep
  | some j =>
    rw [hb] at hmake
    obtain ⟨rfl, rfl⟩ := Prod.mk.inj hmake
    have hprepared : (r.prepareBackend j o).1.statistics = r.statistics := rfl
    rwa [hprep] at hprepared

theorem prepareWith_statistics (hmk : mk.SparesLedger) {o : Options} {again : Nat} :
    (prepareWith mk name o again r).1.statistics = r.statistics := by
  fun_induction prepareWith mk name o again r with
  | case1 again r hfind => rfl
  | case2 again r e hfind r₁ id hmake r₂ accepted hprep hrej =>
    exact hmk.prepareEntry hmake hprep
  | case3 again r e hfind r₁ id hmake r₂ accepted hprep hacc hgone =>
    exact hmk.prepareEntry hmake hprep
  | case4 again r e hfind r₁ id hmake r₂ accepted hprep hacc now hnow hsame =>
    have hmade : r₂.statistics = r.statistics := hmk.prepareEntry hmake hprep
    exact hmade
  | case5 r e hfind r₁ id hmake r₂ accepted hprep hacc now hnow hother =>
    exact hmk.prepareEntry hmake hprep
  | case6 r e hfind r₁ id hmake r₂ accepted hprep hacc now hnow hother again ih =>
    exact ih.trans (hmk.prepareEntry hmake hprep)

theorem doErrands_statistics (hmk : mk.SparesLedger) (again : Nat) (es : List Errand) :
    (es.foldl (doErrand mk again) r).statistics = r.statistics := by
  induction es generalizing r with
  | nil => rfl
  | cons e es ih =>
    have herrand : (doErrand mk again r e).statistics = r.statistics := by
      cases e with
      | register name source =>
        exact registerWith_statistics (r := r.newRegistration.1) hmk
      | activate name => exact activateWith_statistics hmk
    exact ih.trans herrand

theorem statistics_obtain (r : Registry) (id : BackendId) :
    (r.obtain id).1.statistics = r.statistics := by
  rw [obtain]
  split_ifs <;> rfl

theorem statistics_produce (r : Registry) (p : Product) :
    (r.produce p).1.statistics = r.statistics := by
  cases p with
  | new plan => rfl
  | existing id => exact statistics_obtain r id

/-- **Making a backend** leaves the ledger alone, whatever the maker does meanwhile: it may register
and activate providers, but it makes no requests. -/
theorem make_statistics (depth : Nat) : (make depth).SparesLedger := by
  induction depth using Nat.strong_induction_on with
  | _ depth ih =>
    intro r n source
    unfold make
    cases source with
    | shared id => exact statistics_obtain r id
    | made k =>
      cases depth with
      | zero => exact statistics_produce ..
      | succ depth =>
        have herrands : ((r.makers[k]?.getD default).nextErrands.foldl
            (doErrand (make depth) (depth + 1)) (r.startCall k)).statistics = r.statistics :=
          doErrands_statistics (ih depth (Nat.lt_succ_self depth)) ..
        exact (statistics_produce ..).trans herrands

/-! ### Enquiries -/

/-- A request for a completion that an active provider was there for: what the last attempt gave,
how many retries there were, and the answer that came back. -/
structure Enquiry where
  last : Except Failure Completion
  retries : Nat
  answer : Completion

/-- Whether there were retries. -/
def Enquiry.retried (q : Enquiry) : Bool :=
  0 < q.retries

/-- Whether the answer reports an error that no attempt has failed with: the backend's own. -/
def Enquiry.reportsError (q : Enquiry) : Bool :=
  q.last.isOk && !q.answer.isSuccess

/-- The enquiry that an operation is. -/
def enquiry? (r : Registry) : Operation → Option Enquiry
  | .complete messages tools =>
    match r.ending messages tools, (r.complete messages tools).2 with
    | .ok (last, retries), .ok answer => some ⟨last, retries, answer⟩
    | _, _ => none
  | _ => none

/-- The enquiries of a run, in order. -/
def enquiries (r : Registry) : List Operation → List Enquiry
  | [] => []
  | op :: ops => (r.enquiry? op).toList ++ enquiries (r.perform op).1 ops

/-- Whether an operation other than a request for a completion writes into the ledger. -/
def Operation.writesLedger : Operation → Bool
  | embed .. => true
  | record .. => true
  | resetStatistics => true
  | _ => false

/-- A request to the active provider is entered by the end of its last attempt. -/
theorem statistics_ending {messages : List Message} {tools : List ToolDefinition}
    {last : Except Failure Completion} {retries : Nat}
    (h : r.ending messages tools = .ok (last, retries)) :
    ∃ reason, (r.complete messages tools).1.statistics =
      r.statistics.record reason last.isOk retries := by
  cases ha : r.active? with
  | error e =>
    rw [ending, ha] at h
    cases h
  | ok a =>
    let run := Retry.execute (a.policy.effective r.retriesEnabled) r.draws
      (Backend.complete messages tools) (r.backend a.backend)
    rw [ending, ha] at h
    obtain ⟨rfl, rfl⟩ := Prod.mk.inj (Except.ok.inj h)
    refine ⟨run.reason, ?_⟩
    rw [complete_eq_call ha]
    show r.statistics.record run.reason run.result.isOk run.retries = _
    rw [show run.result = _ from Retry.execute_last ..]
    congr 1
    cases Prod.fst _ <;> rfl

/-- Without an active provider there is no request, and nothing is entered. -/
theorem complete_of_ending {messages : List Message} {tools : List ToolDefinition} {e : Error}
    (h : r.ending messages tools = .error e) : (r.complete messages tools).1 = r := by
  cases ha : r.active? with
  | error e => rw [complete, ha]
  | ok a =>
    rw [ending, ha] at h
    cases h

/-- The answer of an enquiry is what the last attempt gave, or is made of its failure. -/
theorem answer_of_enquiry? {op : Operation} {q : Enquiry} (h : r.enquiry? op = some q) :
    (∀ c, q.last = .ok c → q.answer = c) ∧
      ∀ f, q.last = .error f → q.answer.status = .apiError ∧
        q.answer.errorMessage = f.account q.retries := by
  cases op with
  | complete messages tools =>
    obtain ⟨-, hanswer⟩ := r.complete_ending messages tools
    rw [enquiry?] at h
    cases hending : r.ending messages tools with
    | error e =>
      rw [hending] at h
      cases h
    | ok ending =>
      obtain ⟨last, retries⟩ := ending
      rw [hending] at h hanswer
      -- What came in the end is handed on, or it is made into an account of the failure.
      cases last with
      | ok c =>
        have hanswer : (r.complete messages tools).2 = .ok c := hanswer
        rw [hanswer] at h
        obtain rfl := Option.some.inj h
        refine ⟨fun c' hc' => Except.ok.inj hc', fun f hf => ?_⟩
        cases hf
      | error f =>
        obtain ⟨displayName, hanswer⟩ := hanswer
        rw [hanswer] at h
        obtain rfl := Option.some.inj h
        refine ⟨fun c hc => ?_, fun f' hf' => ?_⟩
        · cases hc
        · obtain rfl := Except.error.inj hf'
          exact ⟨rfl, GivenUp.message_eq f retries⟩
  | _ => cases h

/-- **What one operation writes into the ledger**: an enquiry is entered by the end of its last
attempt, and that is all. -/
theorem perform_statistics {op : Operation} (h : op.writesLedger = false) :
    ∃ reason, (r.perform op).1.statistics =
      (r.enquiry? op).elim r.statistics fun q =>
        r.statistics.record reason q.last.isOk q.retries := by
  -- What makes no request leaves the statistics alone, and then any reason will do.
  have hkept : r.enquiry? op = none → (r.perform op).1.statistics = r.statistics →
      ∃ reason, (r.perform op).1.statistics = (r.enquiry? op).elim r.statistics fun q =>
        r.statistics.record reason q.last.isOk q.retries := by
    intro hnone hsame
    rw [hnone]
    exact ⟨"", hsame⟩
  cases op with
  | complete messages tools =>
    cases hending : r.ending messages tools with
    | error e =>
      refine hkept ?_ (congrArg Registry.statistics (complete_of_ending hending))
      rw [enquiry?, hending]
    | ok ending =>
      obtain ⟨last, retries⟩ := ending
      obtain ⟨-, hanswer⟩ := r.complete_ending messages tools
      -- A request that is made is answered: a failure is made into an answer that tells of it.
      obtain ⟨answer, hanswer⟩ : ∃ answer, (r.complete messages tools).2 = .ok answer := by
        rw [hending] at hanswer
        cases last with
        | ok c => exact ⟨c, hanswer⟩
        | error f => exact ⟨_, hanswer.choose_spec⟩
      rw [enquiry?, hending, hanswer]
      exact statistics_ending hending
  -- These three write into the ledger themselves.
  | embed text => cases h
  | record reason success retries => cases h
  | resetStatistics => cases h
  | register name source =>
    exact hkept rfl (registerWith_statistics (r := r.newRegistration.1) (make_statistics _))
  | activate name => exact hkept rfl (activateWith_statistics (make_statistics _))
  | prepare name o => exact hkept rfl (prepareWith_statistics (make_statistics _))
  | setPolicy name p =>
    refine hkept rfl ?_
    rw [perform, report, setPolicy]
    split <;> rfl
  | setModel id =>
    refine hkept rfl ?_
    rw [perform, report, setModel]
    split
    · rfl
    · dsimp only
      split_ifs
      · rfl
      · split <;> rfl
  | setTemplate id =>
    refine hkept rfl ?_
    rw [perform, report, setTemplate]
    split
    · rfl
    · dsimp only
      split_ifs
      · rfl
      · split <;> rfl
  | setOptions o =>
    refine hkept rfl ?_
    rw [perform, report, setOptions]
    split <;> rfl
  | listen kind answer => cases kind <;> exact hkept rfl rfl
  | unlisten id =>
    refine hkept rfl ?_
    rw [perform, unlisten]
    dsimp only
    split_ifs <;> rfl
  | _ => exact hkept rfl rfl

/-! ### Runs -/

/-- What an entry adds to the two figures of the ledger. -/
theorem figures_record (s : Retry.Statistics) (reason : String) (success : Bool) (retries : Nat) :
    (s.record reason success retries).succeeded =
      s.succeeded + (if 0 < retries ∧ success = true then 1 else 0) ∧
    (s.record reason success retries).failed =
      s.failed + (if 0 < retries ∧ success = false then 1 else 0) := by
  rw [Retry.Statistics.record]
  by_cases h : retries = 0
  · simp [h]
  · have hpos : 0 < retries := Nat.pos_of_ne_zero h
    cases success <;> simp [h, hpos]

/-- The answers of a run are what the last attempts gave, or are made of their failures. -/
theorem answer_of_mem_enquiries {ops : List Operation} {q : Enquiry} (h : q ∈ r.enquiries ops) :
    (∀ c, q.last = .ok c → q.answer = c) ∧
      ∀ f, q.last = .error f → q.answer.status = .apiError ∧
        q.answer.errorMessage = f.account q.retries := by
  induction ops generalizing r with
  | nil => cases h
  | cons op ops ih =>
    rcases List.mem_append.mp h with h | h
    · exact answer_of_enquiry? (Option.mem_toList.mp h)
    · exact ih h

/-- A request that was given up comes back as an error; so the answers that are no errors are those
of last attempts that were answered, but for the errors among them. -/
theorem countP_answers {qs : List Enquiry}
    (h : ∀ q ∈ qs, (∀ c, q.last = .ok c → q.answer = c) ∧
      ∀ f, q.last = .error f → q.answer.status = .apiError ∧
        q.answer.errorMessage = f.account q.retries) :
    qs.countP (·.last.isOk) =
      qs.countP (·.answer.isSuccess) + qs.countP Enquiry.reportsError ∧
    qs.countP (!·.last.isOk) + qs.countP Enquiry.reportsError =
      qs.countP (!·.answer.isSuccess) := by
  induction qs with
  | nil => exact ⟨rfl, rfl⟩
  | cons q qs ih =>
    obtain ⟨hgood, hbad⟩ := ih fun q' hq' => h q' (List.mem_cons_of_mem _ hq')
    -- A failure is never an answer without an error.
    have hq : q.last.isOk = false → q.answer.isSuccess = false := by
      intro hlast
      cases hcase : q.last with
      | ok c => rw [hcase] at hlast; cases hlast
      | error f =>
        have hstatus := ((h q (List.mem_cons_self ..)).2 f hcase).1
        rw [Completion.isSuccess, hstatus]
        rfl
    simp only [List.countP_cons, Enquiry.reportsError]
    by_cases hlast : q.last.isOk = true
    · by_cases hsuccess : q.answer.isSuccess = true <;> simp [hlast, hsuccess] <;> omega
    · rw [Bool.not_eq_true] at hlast
      simp [hlast, hq hlast]
      omega

/-- The two figures of the ledger after a run, by how the last attempts ended. -/
theorem performAll_figures {ops : List Operation} (h : ∀ op ∈ ops, op.writesLedger = false) :
    let retried := (r.enquiries ops).filter Enquiry.retried
    (r.performAll ops).statistics.succeeded =
      r.statistics.succeeded + retried.countP (·.last.isOk) ∧
    (r.performAll ops).statistics.failed =
      r.statistics.failed + retried.countP (!·.last.isOk) := by
  induction ops generalizing r with
  | nil => exact ⟨rfl, rfl⟩
  | cons op ops ih =>
    intro retried
    obtain ⟨hsucceeded, hfailed⟩ :=
      ih (r := (r.perform op).1) fun op' hop' => h op' (List.mem_cons_of_mem _ hop')
    obtain ⟨reason, hstep⟩ := perform_statistics (r := r) (h op (List.mem_cons_self ..))
    have hretried : retried = (r.enquiry? op).toList.filter Enquiry.retried ++
        ((r.perform op).1.enquiries ops).filter Enquiry.retried := List.filter_append ..
    rw [performAll_cons, hsucceeded, hfailed, hretried, List.countP_append, List.countP_append,
      hstep]
    cases r.enquiry? op with
    | none => simp
    | some q =>
      obtain ⟨hs, hf⟩ := figures_record r.statistics reason q.last.isOk q.retries
      simp only [Option.elim_some, hs, hf, Option.toList_some]
      by_cases hq : 0 < q.retries
      · have hr : q.retried = true := decide_eq_true hq
        cases hok : q.last.isOk <;> simp [hr, hq, hok] <;> omega
      · have hr : q.retried = false := decide_eq_false hq
        simp [hr, hq]

/-- **The tally** over a run of requests for completions, between which anything else may happen
that the ledger is not about.  The ledger counts the requests with retries by how their last attempt
ended: as a success if the backend answered at all, as a failure if the request was given up.  An
answer comes back as it is, a failure as an answer that is an error.

So the figures agree with the answers that come back, but for the answers of a backend that are
errors of its own: after retries these are counted among the successes. -/
theorem performAll_tally {ops : List Operation} (h : ∀ op ∈ ops, op.writesLedger = false) :
    let before := r.statistics
    let now := (r.performAll ops).statistics
    let retried := (r.enquiries ops).filter Enquiry.retried
    now.succeeded = before.succeeded + retried.countP (·.last.isOk) ∧
    now.failed = before.failed + retried.countP (!·.last.isOk) ∧
    (∀ q ∈ r.enquiries ops, (∀ c, q.last = .ok c → q.answer = c) ∧
      ∀ f, q.last = .error f → q.answer.status = .apiError ∧
        q.answer.errorMessage = f.account q.retries) ∧
    now.succeeded = before.succeeded + retried.countP (·.answer.isSuccess) +
      retried.countP Enquiry.reportsError ∧
    now.failed + retried.countP Enquiry.reportsError =
      before.failed + retried.countP (!·.answer.isSuccess) := by
  intro before now retried
  obtain ⟨hsucceeded, hfailed⟩ := performAll_figures (r := r) h
  have hanswers := fun q (hq : q ∈ r.enquiries ops) => answer_of_mem_enquiries hq
  -- The answers that report an error are counted as successes, so they change sides.
  have hcounts := countP_answers fun q (hq : q ∈ retried) =>
    hanswers q (List.mem_filter.mp hq).1
  obtain ⟨hgood, hbad⟩ := hcounts
  refine ⟨hsucceeded, hfailed, hanswers, ?_, ?_⟩
  · rw [Nat.add_assoc, ← hgood]
    exact hsucceeded
  · rw [← hbad, ← Nat.add_assoc]
    exact congrArg (· + _) hfailed

/-- A run that leads to an active provider whose backend fails once, and then answers with an error
of its own. -/
def reportingRun : List Operation :=
  [.addBackend { Backend.named "m" with
      script := [.error ⟨.rateLimit, "slow down"⟩, .ok (.apiError "Invalid API key")] },
    .register "m" (.shared 0), .activate "m"]

/-- A request that is retried and then answered with an error: it counts as a success. -/
theorem reported_error_is_tallied_as_success :
    let r := after true .empty (fun _ => 0) reportingRun
    let ops : List Operation := [.complete [] []]
    let retried := (r.enquiries ops).filter Enquiry.retried
    let s := (r.performAll ops).statistics
    retried.map Enquiry.answer = [.apiError "Invalid API key"] ∧
    retried.countP (·.answer.isSuccess) = 0 ∧ retried.countP (!·.answer.isSuccess) = 1 ∧
    s.succeeded = 1 ∧ s.failed = 0 := by
  decide +kernel

/-- The tally of that run and of two requests after it, the second of which is not retried. -/
theorem performAll_tally_of_report :
    let ops : List Operation := [.complete [] [], .complete [] []]
    let s := (start true .empty fun _ => 0).performAll (reportingRun ++ ops) |>.statistics
    (∀ op ∈ reportingRun ++ ops, op.writesLedger = false) ∧ s.succeeded = 1 ∧ s.failed = 0 := by
  intro ops s
  have hops : ∀ op ∈ reportingRun ++ ops, op.writesLedger = false := by
    simp [reportingRun, ops, Operation.writesLedger]
  obtain ⟨hsucceeded, hfailed, -⟩ := performAll_tally (r := start true .empty fun _ => 0) hops
  refine ⟨hops, hsucceeded.trans ?_, hfailed.trans ?_⟩
  · decide +kernel
  · decide +kernel

end Colloquy.Registry
