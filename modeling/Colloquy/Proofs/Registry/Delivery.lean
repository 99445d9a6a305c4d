import Colloquy.Proofs.Registry.Listening
import Mathlib.Data.List.Induction

/-!
# What a listener hears

A listener hears of everything that is told to listeners of its kind between the operation that adds
it and the one that removes it (`heardBy_performAll`), and of nothing before or after.  Its number
is its own: another listener never gets it, and it can be removed once.

`notices_exact` puts this together with the notices of single operations, for every run from the
start in which the makers do not use the registry.
-/

namespace Colloquy.Registry

open Provider (Backend)

variable {r : Registry} {ρ : Roll} {id : Nat} {kind : Kind}

/-! ### Runs without errands -/

/-- Whether an operation brings no errands: a maker that comes with it does not use the registry. -/
def Operation.Discreet : Operation → Prop
  | .takeMaker k => k.errands.flatten = []
  | _ => True

theorem complete_makers (r : Registry) (messages : List Message)
    (tools : List Provider.ToolDefinition) : (r.complete messages tools).1.makers = r.makers := by
  cases ha : r.active? with
  | error e => rw [complete, ha]
  | ok a =>
    rw [complete_eq_call ha]
    rfl

theorem embed_makers (r : Registry) (text : String) : (r.embed text).1.makers = r.makers := by
  cases ha : r.active? with
  | error e => rw [embed, ha]
  | ok a =>
    rw [embed_eq_call ha]
    rfl

/-- Without errands at first, and with none that come later, there are never any. -/
theorem perform_pending (hquiet : r.pending = 0) {op : Operation} (hop : op.Discreet) :
    (r.perform op).1.pending = 0 := by
  -- What is pending is told by the makers alone.
  have hsame : ∀ {r' : Registry}, r'.makers = r.makers → r'.pending = 0 :=
    fun h => (pending_congr h).trans hquiet
  cases op with
  | takeMaker k =>
    -- A discreet operation brings makers without errands only.
    have hnone : k.errands.flatten = [] := hop
    have hall : (r.makers ++ [k]).flatMap (fun m => m.errands.flatten) =
        r.makers.flatMap fun m => m.errands.flatten := by
      rw [List.flatMap_append, List.flatMap_singleton, hnone, List.append_nil]
    exact (congrArg List.length hall).trans hquiet
  -- The next three carry out errands, which are used up by that.
  | register name source =>
    have hle : (r.register name source).1.pending ≤ r.newRegistration.1.pending :=
      registerWith_pending_le (thrifty_make _)
    exact Nat.le_zero.mp (hle.trans hquiet.le)
  | activate name =>
    have hle : (r.activate name).1.pending ≤ r.pending := activateWith_pending_le (thrifty_make _)
    exact Nat.le_zero.mp (hle.trans hquiet.le)
  | prepare name o =>
    have hle : (r.prepare name o).1.pending ≤ r.pending := prepareWith_pending_le (thrifty_make _)
    exact Nat.le_zero.mp (hle.trans hquiet.le)
  | setPolicy name p =>
    refine hsame ?_
    change (r.setPolicy name p).1.makers = r.makers
    unfold setPolicy
    split <;> rfl
  | setModel id =>
    refine hsame ?_
    change (r.setModel id).1.makers = r.makers
    cases h : (r.setModel id).2 with
    | error e => rw [setModel_error h]
    | ok info =>
      obtain ⟨a, b, -, -, -, hafter⟩ := setModel_ok h
      rw [hafter]
      rfl
  | setTemplate id =>
    refine hsame ?_
    change (r.setTemplate id).1.makers = r.makers
    cases h : (r.setTemplate id).2 with
    | error e => rw [setTemplate_error h]
    | ok u =>
      obtain ⟨a, b, -, -, hafter⟩ := setTemplate_ok h
      rw [hafter]
      rfl
  | setOptions o =>
    refine hsame ?_
    change (r.setOptions o).1.makers = r.makers
    unfold setOptions
    split <;> rfl
  | listen kind answer => cases kind <;> exact hsame rfl
  | unlisten id =>
    refine hsame ?_
    change (r.unlisten id).1.makers = r.makers
    unfold unlisten
    dsimp only
    split_ifs <;> rfl
  | complete messages tools => exact hsame (complete_makers r messages tools)
  | embed text => exact hsame (embed_makers r text)
  | _ => exact hsame rfl

/-! ### Lifetimes -/

/-- Whether an operation removes a listener. -/
def Operation.removes (id : Nat) : Operation → Bool
  | .unlisten id' => id' == id
  | _ => false

theorem Operation.enrols_of_removes {op : Operation} (h : op.removes id = true) :
    op.enrols = true := by
  cases op with
  | unlisten id' => rfl
  | _ => cases h

/-- The part of a run in which a listener is not removed. -/
def lifetime (id : Nat) (ops : List Operation) : List Operation :=
  ops.takeWhile fun op => !op.removes id

/-- A listener that was on a roll once and is not any more. -/
structure Roll.Gone (ρ : Roll) (id : Nat) : Prop where
  added : id ≤ ρ.added
  absent : ∀ kind, (id, kind) ∉ ρ.members

/-- A listener stays on the roll until it is removed. -/
theorem Roll.mem_enrol (h : (id, kind) ∈ ρ.members) {op : Operation}
    (hop : op.removes id = false) : (id, kind) ∈ (ρ.enrol op).members := by
  cases op with
  | listen kind answer => exact List.mem_append_left _ h
  | unlisten id' =>
    have hne : id ≠ id' := fun heq => by simp [Operation.removes, heq] at hop
    exact List.mem_filter.mpr ⟨h, bne_iff_ne.mpr hne⟩
  | _ => exact h

/-- A listener that is removed is gone. -/
theorem Roll.gone_of_removes (h : id ≤ ρ.added) {op : Operation} (hop : op.removes id = true) :
    (ρ.enrol op).Gone id := by
  cases op with
  | unlisten id' =>
    obtain rfl : id' = id := beq_iff_eq.mp hop
    refine ⟨h, fun kind hmem => ?_⟩
    exact (bne_iff_ne.mp (List.mem_filter.mp hmem).2) rfl
  | _ => cases hop

/-- What is gone does not come back: a new listener gets a new number. -/
theorem Roll.Gone.enrol (h : ρ.Gone id) (op : Operation) : (ρ.enrol op).Gone id := by
  cases op with
  | listen kind answer =>
    refine ⟨h.added.trans (Nat.le_succ _), fun k hmem => ?_⟩
    rcases List.mem_append.mp hmem with hmem | hmem
    · exact h.absent k hmem
    · have hid : id = ρ.added + 1 := congrArg Prod.fst (List.mem_singleton.mp hmem)
      have hle := h.added
      omega
  | unlisten id' => exact ⟨h.added, fun k hmem => h.absent k (List.mem_filter.mp hmem).1⟩
  | _ => exact h

theorem Roll.Gone.enrolAll (h : ρ.Gone id) (ops : List Operation) :
    (ops.foldl Roll.enrol ρ).Gone id := by
  induction ops generalizing ρ with
  | nil => exact h
  | cons op ops ih => exact ih (h.enrol op)

theorem Roll.ofRun_append (ops ops' : List Operation) :
    ofRun (ops ++ ops') = ops'.foldl enrol (ofRun ops) := List.foldl_append

theorem Roll.ofRun_snoc (ops : List Operation) (op : Operation) :
    ofRun (ops ++ [op]) = (ofRun ops).enrol op := ofRun_append ops [op]

theorem Roll.added_le_enrol (ρ : Roll) (op : Operation) : ρ.added ≤ (ρ.enrol op).added := by
  cases op with
  | listen kind answer => exact Nat.le_succ _
  | _ => exact Nat.le_refl _

theorem Roll.added_le_enrolAll (ρ : Roll) (ops : List Operation) :
    ρ.added ≤ (ops.foldl enrol ρ).added := by
  induction ops generalizing ρ with
  | nil => exact Nat.le_refl _
  | cons op ops ih => exact (ρ.added_le_enrol op).trans (ih _)

/-- The numbers of listeners ascend. -/
theorem Roll.added_lt (before : List Operation) (kind : Kind) (answer : Answer)
    (rest : List Operation) :
    (ofRun before).added < (ofRun (before ++ .listen kind answer :: rest)).added := by
  rw [ofRun_append]
  exact added_le_enrolAll ((ofRun before).enrol (.listen kind answer)) rest

/-- Who is on the roll: those that were added and have not been removed since. -/
theorem Roll.mem_ofRun_iff (ops : List Operation) : (id, kind) ∈ (ofRun ops).members ↔
    ∃ before answer rest, ops = before ++ .listen kind answer :: rest ∧
      id = (ofRun before).added + 1 ∧ ∀ op ∈ rest, op.removes id = false := by
  induction ops using List.reverseRecOn with
  | nil => simp [ofRun]
  | append_singleton ops op ih =>
    rw [ofRun_snoc]
    constructor
    · -- An older member stays one; a new one comes last.
      intro hmem
      by_cases hold : (id, kind) ∈ (ofRun ops).members ∧ op.removes id = false
      · -- It has been a member before.
        obtain ⟨before, answer, rest, rfl, hid, hrest⟩ := ih.mp hold.1
        refine ⟨before, answer, rest ++ [op], by simp, hid, fun op' hop' => ?_⟩
        rcases List.mem_append.mp hop' with hop' | hop'
        · exact hrest op' hop'
        · exact List.mem_singleton.mp hop' ▸ hold.2
      · cases op with
        -- Whoever is no older member was added by this very operation.
        | listen kind' answer =>
          rcases List.mem_append.mp hmem with hmem | hmem
          · exact absurd ⟨hmem, rfl⟩ hold
          · obtain ⟨rfl, rfl⟩ := Prod.mk.inj (List.mem_singleton.mp hmem)
            exact ⟨ops, answer, [], rfl, rfl, by simp⟩
        | unlisten id' =>
          obtain ⟨hmem, hne⟩ := List.mem_filter.mp hmem
          refine absurd ⟨hmem, ?_⟩ hold
          have hne : id ≠ id' := bne_iff_ne.mp hne
          exact beq_eq_false_iff_ne.mpr hne.symm
        | _ => exact absurd ⟨hmem, rfl⟩ hold
    · -- It was added by the last operation, or it was a member before and is not removed by that one.
      rintro ⟨before, answer, rest, heq, hid, hrest⟩
      rcases List.eq_nil_or_concat' rest with rfl | ⟨rest, op', rfl⟩
      · obtain ⟨rfl, hop⟩ := List.append_inj' heq rfl
        obtain rfl := List.singleton_inj.mp hop
        rw [hid]
        exact List.mem_append_right _ (List.mem_singleton_self _)
      · rw [← List.cons_append, ← List.append_assoc] at heq
        obtain ⟨rfl, hop⟩ := List.append_inj' heq rfl
        obtain rfl := List.singleton_inj.mp hop
        have hmem := ih.mpr ⟨before, answer, rest, rfl, hid, fun op' hop' =>
          hrest op' (List.mem_append_left _ hop')⟩
        exact mem_enrol hmem (hrest op (List.mem_append_right _ (List.mem_singleton_self _)))

/-! ### What is heard -/

/-- What a listener has heard, one thing after the other. -/
def heardBy (r : Registry) (id : Nat) : List Event :=
  (r.notices.filter (·.listener == id)).map Notice.event

/-- What the operations of a run give to tell. -/
def newsAll (r : Registry) : List Operation → List Event
  | [] => []
  | op :: ops => (r.news op).toList ++ (r.perform op).1.newsAll ops

/-- Everybody who listens is told once. -/
theorem filter_notify (ls : List Listener) (hls : (ls.map Listener.id).Nodup) (id : Nat)
    (e : Event) : ((notify ls e).filter (·.listener == id)).map Notice.event =
      if id ∈ ls.map Listener.id then [e] else [] := by
  induction ls with
  | nil => rfl
  | cons l ls ih =>
    rw [List.map_cons, List.nodup_cons] at hls
    have hrest := ih hls.2
    rw [notify, List.map_cons, List.filter_cons]
    by_cases hid : l.id = id
    · subst hid
      rw [if_neg hls.1] at hrest
      simpa [notify] using hrest
    · have hid' : id ≠ l.id := fun h => hid h.symm
      simpa [notify, hid, hid'] using hrest

theorem Enrolled.nodup_listeners (h : Enrolled r ρ) (kind : Kind) :
    ((r.listeners kind).map Listener.id).Nodup := by
  rw [h.listed]
  exact h.distinct.sublist (List.filter_sublist.map _)

theorem news_of_enrols {op : Operation} (hop : op.enrols = true) : r.news op = none := by
  cases op with
  | listen kind answer => rfl
  | unlisten id => rfl
  | _ => cases hop

/-- The notices of one operation, whichever it is. -/
theorem perform_notices (hr : r.Sound) (hquiet : r.pending = 0) (op : Operation) :
    (r.perform op).1.notices =
      r.notices ++ (r.news op).elim [] fun e => notify (r.listeners e.kind) e := by
  cases hop : op.enrols with
  | false => exact (perform_tells hr hquiet hop).notices
  | true =>
    rw [news_of_enrols hop]
    refine Eq.trans ?_ (List.append_nil _).symm
    cases op with
    | listen kind answer => cases kind <;> rfl
    | unlisten id => exact congrArg Books.notices (unlisten_books r id)
    | _ => cases hop

/-- **One operation**: a listener hears the news if it is on the roll with the kind of the news. -/
theorem heardBy_perform (hr : r.Sound) (hquiet : r.pending = 0) (h : Enrolled r ρ) (id : Nat)
    (op : Operation) : (r.perform op).1.heardBy id =
      r.heardBy id ++ (r.news op).toList.filter fun e => decide ((id, e.kind) ∈ ρ.members) := by
  rw [heardBy, perform_notices hr hquiet, List.filter_append, List.map_append, heardBy]
  congr 1
  cases hnews : r.news op with
  | none => rfl
  | some e =>
    rw [Option.elim_some, filter_notify _ (h.nodup_listeners e.kind), h.listed]
    simp only [Roll.mem_ofKind]
    split_ifs with hmem <;> simp [hmem]

/-- A listener that is on the roll hears what is for its kind. -/
theorem heardBy_perform_of_mem (hr : r.Sound) (hquiet : r.pending = 0) (h : Enrolled r ρ)
    (hmem : (id, kind) ∈ ρ.members) (op : Operation) :
    (r.perform op).1.heardBy id =
      r.heardBy id ++ (r.news op).toList.filter (·.kind == kind) := by
  have hiff : ∀ e : Event, decide ((id, e.kind) ∈ ρ.members) = (e.kind == kind) := fun e =>
    decide_eq_decide.mpr ⟨fun hmem' => h.kind_unique hmem' hmem, fun heq => heq ▸ hmem⟩
  rw [heardBy_perform hr hquiet h]
  simp only [hiff]

theorem heardBy_performAll_of_gone {ops : List Operation} (hops : ∀ op ∈ ops, op.Discreet)
    (hr : r.Sound) (hquiet : r.pending = 0) (h : Enrolled r ρ) (hgone : ρ.Gone id) :
    (r.performAll ops).heardBy id = r.heardBy id := by
  induction ops generalizing r ρ with
  | nil => rfl
  | cons op ops ih =>
    obtain ⟨hop, hops⟩ := List.forall_mem_cons.mp hops
    have hrest := ih hops (perform_sound op hr).1 (perform_pending hquiet hop)
      (enrolled_perform hr hquiet h op) (hgone.enrol op)
    rw [performAll_cons, hrest, heardBy_perform hr hquiet h]
    simp [hgone.absent]

/-- **A run**: until it is removed, a listener hears what there is to tell to its kind, and then
nothing more. -/
theorem heardBy_performAll {ops : List Operation} (hops : ∀ op ∈ ops, op.Discreet)
    (hr : r.Sound) (hquiet : r.pending = 0) (h : Enrolled r ρ) (hmem : (id, kind) ∈ ρ.members) :
    (r.performAll ops).heardBy id =
      r.heardBy id ++ (r.newsAll (lifetime id ops)).filter (·.kind == kind) := by
  induction ops generalizing r ρ with
  | nil => exact (List.append_nil _).symm
  | cons op ops ih =>
    obtain ⟨hop, hops⟩ := List.forall_mem_cons.mp hops
    have hr' := (perform_sound op hr).1
    have hquiet' := perform_pending hquiet hop
    have h' := enrolled_perform hr hquiet h op
    have hheard := heardBy_perform_of_mem hr hquiet h hmem op
    cases hremoves : op.removes id with
    | true =>
      have hgone : (ρ.enrol op).Gone id := Roll.gone_of_removes (h.bounded _ hmem) hremoves
      have hnews : r.news op = none := news_of_enrols (Operation.enrols_of_removes hremoves)
      rw [performAll_cons, heardBy_performAll_of_gone hops hr' hquiet' h' hgone, hheard, hnews,
        lifetime, List.takeWhile_cons, hremoves]
      rfl
    | false =>
      have hrest := ih hops hr' hquiet' h' (Roll.mem_enrol hmem hremoves)
      rw [performAll_cons, hrest, hheard, List.append_assoc, ← List.filter_append, lifetime,
        lifetime, List.takeWhile_cons, hremoves]
      rfl

/-! ### Runs from the start -/

theorem performAll_pending {ops : List Operation} (hops : ∀ op ∈ ops, op.Discreet)
    (hquiet : r.pending = 0) : (r.performAll ops).pending = 0 := by
  induction ops generalizing r with
  | nil => exact hquiet
  | cons op ops ih =>
    obtain ⟨hop, hops⟩ := List.forall_mem_cons.mp hops
    exact ih hops (perform_pending hquiet hop)

theorem enrolled_performAll {ops : List Operation} (hops : ∀ op ∈ ops, op.Discreet)
    (hr : r.Sound) (hquiet : r.pending = 0) (h : Enrolled r ρ) :
    Enrolled (r.performAll ops) (ops.foldl Roll.enrol ρ) := by
  induction ops generalizing r ρ with
  | nil => exact h
  | cons op ops ih =>
    obtain ⟨hop, hops⟩ := List.forall_mem_cons.mp hops
    exact ih hops (perform_sound op hr).1 (perform_pending hquiet hop)
      (enrolled_perform hr hquiet h op)

theorem after_pending (enabled : Bool) (statistics : Retry.Statistics) (draws : Nat → Float)
    {ops : List Operation} (hops : ∀ op ∈ ops, op.Discreet) :
    (after enabled statistics draws ops).pending = 0 :=
  performAll_pending hops rfl

theorem after_enrolled (enabled : Bool) (statistics : Retry.Statistics) (draws : Nat → Float)
    {ops : List Operation} (hops : ∀ op ∈ ops, op.Discreet) :
    Enrolled (after enabled statistics draws ops) (Roll.ofRun ops) :=
  enrolled_performAll hops (sound_start ..) rfl (enrolled_start ..)

theorem listen_snd (r : Registry) (kind : Kind) (answer : Answer) :
    (r.listen kind answer).2 = r.nextListener + 1 := by
  cases kind <;> rfl

/-- **Who is told what.**  Let a registry be told some operations, from the start, with listeners of
all kinds that come and go and answer as they like, and with makers that do not use the registry.

* The next operation tells its news to the listeners of the right kind, in the order in which they
  were added, and nothing else to anybody.
* There is news if the operation goes well and is an activation, a registration of the active
  provider, or a change of the model or of the template; there is none else.
* From when it was added a listener has heard the news for its kind, in order, up to the operation
  that removed it.
* A listener has a larger number than those that were added before it, of whichever kind.
* Removing a listener succeeds if it was added and has not been removed since, so it succeeds once;
  it takes this listener off its list and changes nothing else that is written down. -/
theorem notices_exact (enabled : Bool) (statistics : Retry.Statistics) (draws : Nat → Float)
    {ops : List Operation} (hops : ∀ op ∈ ops, op.Discreet) :
    let past := after enabled statistics draws
    let r := past ops
    (∀ op, (r.perform op).1.notices = r.notices ++ (r.news op).elim [] fun e =>
      ((Roll.ofRun ops).ofKind e.kind).map fun id => ⟨id, e⟩) ∧
    (∀ op, (r.news op).isSome ↔ (r.perform op).2 = none ∧ r.Announces op) ∧
    (∀ before kind answer rest, ops = before ++ .listen kind answer :: rest →
      let id := ((past before).listen kind answer).2
      r.heardBy id = (((past before).listen kind answer).1.newsAll (lifetime id rest)).filter
        (·.kind == kind)) ∧
    (∀ before kind answer middle kind' answer' rest,
      ops = before ++ .listen kind answer :: (middle ++ .listen kind' answer' :: rest) →
      ((past before).listen kind answer).2 <
        ((past (before ++ .listen kind answer :: middle)).listen kind' answer').2) ∧
    (∀ id, (r.unlisten id).2 = true ↔ ∃ before kind answer rest,
      ops = before ++ .listen kind answer :: rest ∧ id = ((past before).listen kind answer).2 ∧
        ∀ op ∈ rest, op.removes id = false) ∧
    (∀ id before rest, ops = before ++ .unlisten id :: rest →
      ((past before).unlisten id).2 = true → (r.unlisten id).2 = false) ∧
    ∀ id, (r.unlisten id).1.books =
      { r.books with listeners := fun kind => (r.listeners kind).filter (·.id != id) } := by
  intro past r
  have hr : r.Sound := after_sound enabled statistics draws ops
  have hquiet : r.pending = 0 := after_pending enabled statistics draws hops
  have henrolled : Enrolled r (Roll.ofRun ops) := after_enrolled enabled statistics draws hops
  have hpast : ∀ before rest, ops = before ++ rest →
      (past before).pending = 0 ∧ Enrolled (past before) (Roll.ofRun before) := by
    rintro before rest rfl
    have hbefore : ∀ op ∈ before, op.Discreet := fun op hop => hops op (List.mem_append_left _ hop)
    exact ⟨after_pending _ _ _ hbefore, after_enrolled _ _ _ hbefore⟩
  have hid : ∀ before rest kind answer, ops = before ++ rest →
      ((past before).listen kind answer).2 = (Roll.ofRun before).added + 1 := by
    intro before rest kind answer h
    rw [listen_snd, (hpast before rest h).2.added]
  refine ⟨fun op => ?_, news_isSome_iff hr hquiet, ?_, ?_, fun id => ?_, ?_, fun id => ?_⟩
  · rw [perform_notices hr hquiet]
    congr 2
    funext e
    rw [← henrolled.listed, notify, List.map_map]
    rfl
  · rintro before kind answer rest h id
    obtain ⟨hquiet', henrolled'⟩ := hpast before _ h
    have hmem : (id, kind) ∈ ((Roll.ofRun before).enrol (.listen kind answer)).members := by
      rw [show id = _ from hid before _ kind answer h]
      exact List.mem_append_right _ (List.mem_singleton_self _)
    -- It has a new number, so nothing was told to it before.
    have hnever : ((past before).listen kind answer).1.heardBy id = [] := by
      have hnotices : ((past before).listen kind answer).1.notices = (past before).notices := by
        cases kind <;> rfl
      rw [heardBy, hnotices, List.filter_eq_nil_iff.mpr, List.map_nil]
      intro n hn heq
      have hle := henrolled'.told n hn
      have heq : n.listener = (Roll.ofRun before).added + 1 :=
        (beq_iff_eq.mp heq).trans (hid before _ kind answer h)
      omega
    have hdiscreet : (Operation.listen kind answer).Discreet := trivial
    have hrest : ∀ op ∈ rest, op.Discreet := fun op hop => hops op (by simp [h, hop])
    have hrun := heardBy_performAll hrest
      (perform_sound (.listen kind answer) (after_sound enabled statistics draws before)).1
      (perform_pending hquiet' hdiscreet)
      (enrolled_perform (after_sound ..) hquiet' henrolled' (.listen kind answer)) hmem
    have hafter : r = ((past before).listen kind answer).1.performAll rest := by
      rw [show r = after enabled statistics draws ops from rfl, h, after_append]
      rfl
    rw [hafter]
    exact hrun.trans (by
      rw [show ((past before).perform (.listen kind answer)).1.heardBy id = [] from hnever]
      rfl)
  · intro before kind answer middle kind' answer' rest h
    rw [hid before _ kind answer h, hid (before ++ .listen kind answer :: middle)
      (.listen kind' answer' :: rest) kind' answer' (by simp [h])]
    exact Nat.succ_lt_succ (Roll.added_lt before kind answer middle)
  · rw [henrolled.unlisten_iff]
    simp only [Roll.mem_ofRun_iff]
    constructor
    · rintro ⟨kind, before, answer, rest, h, hnew, hrest⟩
      exact ⟨before, kind, answer, rest, h, hnew.trans (hid before _ kind answer h).symm, hrest⟩
    · rintro ⟨before, kind, answer, rest, h, hnew, hrest⟩
      exact ⟨kind, before, answer, rest, h, hnew.trans (hid before _ kind answer h), hrest⟩
  · intro id before rest h hremoved
    obtain ⟨-, henrolled'⟩ := hpast before _ h
    obtain ⟨kind, hmem⟩ := (henrolled'.unlisten_iff id).mp hremoved
    have hgone : ((Roll.ofRun before).enrol (.unlisten id)).Gone id :=
      Roll.gone_of_removes (henrolled'.bounded _ hmem) BEq.rfl
    have hgone : (Roll.ofRun ops).Gone id := by
      rw [h, Roll.ofRun_append]
      exact hgone.enrolAll rest
    refine Bool.eq_false_iff.mpr fun htrue => ?_
    obtain ⟨kind', hmem'⟩ := (henrolled.unlisten_iff id).mp htrue
    exact hgone.absent kind' hmem'
  · have hlisteners : (r.unlisten id).1.listeners =
        fun kind => (r.listeners kind).filter (·.id != id) :=
      funext fun kind => henrolled.listeners_unlisten id kind
    rw [unlisten_books, hlisteners]

/-- Listeners that come and go while a provider is activated and is registered anew while it is
active. -/
def audience : List Operation :=
  [.addBackend (Backend.named "mock"), .register "Mock" (.shared 0), .listen .provider .crash,
    .listen .model .fine, .activate "mock", .listen .provider .error,
    .register " MOCK " (.shared 0), .unlisten 1, .setModel "mock-large", .activate "mock"]

/-- The first listener has heard nothing more after it was removed, nothing was in the way of those
that came later, and it cannot be removed again. -/
theorem audience_exact :
    let r := after true .empty (fun _ => 0.5) audience
    (∀ op ∈ audience, op.Discreet) ∧
      r.heardBy 1 = [.provider "Mock", .provider "MOCK"] ∧
      (r.heardBy 2).length = 1 ∧ r.heardBy 3 = [.provider "MOCK", .provider "MOCK"] ∧
      (r.unlisten 1).2 = false := by
  intro r
  have hops : ∀ op ∈ audience, op.Discreet := by simp [audience, Operation.Discreet]
  obtain ⟨-, -, hheard, -, -, honce, -⟩ := notices_exact true .empty (fun _ => 0.5) hops
  have hfirst := hheard (audience.take 2) .provider .crash (audience.drop 3) rfl
  have hsecond := hheard (audience.take 3) .model .fine (audience.drop 4) rfl
  have hthird := hheard (audience.take 5) .provider .error (audience.drop 6) rfl
  exact ⟨hops, hfirst.trans rfl, (congrArg List.length hsecond).trans rfl, hthird.trans rfl,
    honce 1 (audience.take 7) (audience.drop 8) rfl rfl⟩

end Colloquy.Registry
