import Colloquy.Proofs.Conversation.Requests
import Colloquy.Proofs.Registry.Choosing
import Colloquy.Repl.Setup

/-!
# A conversation as the settings ask for it

A conversation is set up by changes that are made in a registry one after the other, and each of
them could undo what an earlier one has done.

* `makeRegistry_eq`: what is left to be done once the provider is prepared and active;
* `Honours`: what the settings ask of a registry, as long as the conversation lasts;
* `Honours.happen`: nothing that happens to a conversation undoes it;
* `setUp_honours`: when a conversation comes about, what it is like at first, and how it makes its
  requests from then on.
-/

namespace Colloquy

open Provider (Backend Completion GivenUp ModelInfo Options ToolDefinition)

/-! ### Registries that differ in their backends -/

namespace Registry

variable {r r' r'' : Registry}

/-- Nothing is different but what the backends are like, and what has been noted. -/
structure Alike (r r' : Registry) : Prop where
  entries : r'.entries = r.entries
  active : r'.active = r.active
  backends : r'.backends.length = r.backends.length
  retriesEnabled : r'.retriesEnabled = r.retriesEnabled

theorem Alike.refl (r : Registry) : Alike r r := ⟨rfl, rfl, rfl, rfl⟩

theorem Alike.trans (h : Alike r r') (h' : Alike r' r'') : Alike r r'' :=
  ⟨h'.entries.trans h.entries, h'.active.trans h.active, h'.backends.trans h.backends,
    h'.retriesEnabled.trans h.retriesEnabled⟩

theorem alike_setBackend (r : Registry) (id : BackendId) (b : Backend) :
    Alike r (r.setBackend id b) :=
  ⟨rfl, rfl, List.length_set .., rfl⟩

theorem alike_complete (r : Registry) (messages : List Message) (tools : List ToolDefinition) :
    Alike r (r.complete messages tools).1 := by
  cases ha : r.active? with
  | error e =>
    rw [complete, ha]
    exact .refl r
  | ok a =>
    rw [complete_eq_call ha]
    exact ⟨rfl, rfl, List.length_set .., rfl⟩

theorem alike_setModel (r : Registry) (id : String) : Alike r (r.setModel id).1 := by
  unfold setModel
  cases r.active? with
  | error e => exact .refl r
  | ok a =>
    dsimp only
    split
    · exact .refl r
    · split
      · exact .refl r
      · exact ⟨rfl, rfl, List.length_set .., rfl⟩

theorem alike_setTemplate (r : Registry) (id : String) : Alike r (r.setTemplate id).1 := by
  unfold setTemplate
  cases r.active? with
  | error e => exact .refl r
  | ok a =>
    dsimp only
    split
    · exact .refl r
    · split
      · exact .refl r
      · exact ⟨rfl, rfl, List.length_set .., rfl⟩

/-! ### The first preparation of a provider -/

variable {name : String} {e : Entry} {m : MakerId} {k : Maker}

theorem register_of_inactive (h : r.isActive name = false) (source : Source) :
    r.register name source =
      (({ r with nextRegistration := r.nextRegistration + 1 } : Registry).setEntry name
        ⟨Text.trim name, source, r.nextRegistration, none, none⟩, .ok ()) := by
  have hactive : ¬r.newRegistration.1.isActive name = true := Bool.eq_false_iff.mp h
  rw [register]
  unfold registerWith
  exact if_neg hactive

theorem setPolicy_of_find? (he : r.find? name = some e) (p : Retry.Policy) :
    r.setPolicy name p = (r.setEntry name { e with policy := some p }, .ok ()) := by
  rw [setPolicy, he]

/-- A maker that has nothing else to do and makes all backends by its plan. -/
structure Maker.Idle (k : Maker) : Prop where
  errands : k.errands = []
  products : k.products = []

/-- The registry when a maker has made a backend by its plan. -/
def withMade (r : Registry) (m : MakerId) (k : Maker) (registration : Nat) : Registry :=
  (((r.startCall m).addBackend k.plan).1.noteMade m k.calls r.backends.length).deliver
    registration (.made m) r.backends.length

theorem make_of_idle (hk : r.makers[m]? = some k) (hidle : k.Idle) (depth n : Nat) :
    make depth r n (.made m) = (r.withMade m k n, r.backends.length) := by
  have herrands : k.nextErrands = [] := by rw [Maker.nextErrands, hidle.errands]; rfl
  have hproduct : k.nextProduct = .new k.plan := by rw [Maker.nextProduct, hidle.products]; rfl
  unfold make
  dsimp only
  rw [hk, Option.getD_some, herrands, hproduct]
  cases depth <;> rfl

/-- The backend is made by the plan and has the options. -/
theorem prepare_of_idle (he : r.find? name = some e) (hsource : e.source = .made m)
    (hbackend : e.backend = none) (hk : r.makers[m]? = some k) (hidle : k.Idle)
    (haccepts : k.plan.rejects = false) (o : Options) :
    r.prepare name o =
      (((r.withMade m k e.registration).setBackend r.backends.length
        { k.plan with options := o, prepared := true }).setEntry name
          { e with backend := some r.backends.length }, .ok ()) := by
  let made := r.withMade m k e.registration
  have hmade : made.backend r.backends.length = { k.plan with prepared := false } := by
    rw [backend]
    simp [made, withMade, deliver, noteMade, addBackend, startCall]
  have hprepare : made.prepareBackend r.backends.length o =
      (made.setBackend r.backends.length { k.plan with options := o, prepared := true }, true) := by
    rw [prepareBackend, hmade, Backend.prepare]
    simp [haccepts]
  have hnow : (made.setBackend r.backends.length
      { k.plan with options := o, prepared := true }).find? name = some e := he
  rw [prepare]
  unfold prepareWith
  rw [he]
  simp only [hbackend, hsource, make_of_idle hk hidle]
  simp only [made] at hprepare hnow
  simp [hprepare, hnow, Entry.withBackend, hbackend, hsource]

end Registry

namespace Repl

variable {s : Settings} {r r' : Registry} {b : Backend} {name : String}

/-! ### One entry -/

/-- A dictionary with one entry. -/
def only {α : Type} (key : String) (value : α) : Dictionary α :=
  (∅ : Dictionary α).insert key value

theorem find?_only {α : Type} (key other : String) (value : α) :
    (only key value).find? other = if other = key then some value else none := by
  rw [only, Dictionary.find?_insert]
  exact if_congr eq_comm rfl rfl

/-- The one entry is replaced. -/
theorem insert_only {α : Type} (key : String) (value value' : α) :
    (only key value).insert key value' = only key value' := by
  have hlt : ¬key < key := String.lt_irrefl key
  refine Dictionary.ext ?_
  change insertEntry key value' [(key, value)] = [(key, value')]
  rw [insertEntry, if_neg hlt, if_neg hlt]

/-! ### What the settings ask for -/

/-- The entry of the provider, with the policy that the settings ask for. -/
def standardEntry (s : Settings) : Registry.Entry :=
  ⟨standardProvider, .made 0, 0, some 0, some s.policy⟩

/-- What the settings ask of a registry: there is just one provider, whose requests follow their
policy, and it is active; there is just one backend; and retries are on or off. -/
structure Honours (s : Settings) (r : Registry) : Prop where
  entries : r.entries = only standardProvider (standardEntry s)
  active : r.active = some standardProvider
  single : r.backends.length = 1
  retries : r.retriesEnabled = s.retries.enabled

theorem Honours.alike (h : Honours s r) (h' : r.Alike r') : Honours s r' :=
  ⟨h'.entries.trans h.entries, h'.active.trans h.active, h'.backends.trans h.single,
    h'.retriesEnabled.trans h.retries⟩

/-- The model that the settings ask for: the first one that has the id, or else the first one. -/
def configuredModel? (s : Settings) : Option ModelInfo :=
  match s.provider.model with
  | some id => (Backend.standardModels standardProvider).find? fun m => m.id == id
  | none => (Backend.standardModels standardProvider).head?

/-- The template that the settings ask for, or else the first one. -/
def configuredTemplate? (s : Settings) : Option String :=
  s.provider.template.or Backend.standardTemplates.head?

/-! ### Activating a provider -/

/-- The backend as it is after its preparation. -/
def preparedBackend (s : Settings) : Backend :=
  { Backend.named standardProvider with options := s.options, prepared := true }

/-- The registry when the provider has been prepared. -/
def preparedRegistry (s : Settings) : Registry where
  backends := [preparedBackend s]
  makers := [⟨.named standardProvider, 1, [], [], [(0, 0)]⟩]
  entries := only standardProvider (standardEntry s)
  nextRegistration := 1
  deliveries := [⟨0, .made 0, 0⟩]
  retriesEnabled := s.retries.enabled

/-- The registry when the provider is active. -/
def activeRegistry (s : Settings) : Registry :=
  { preparedRegistry s with active := some standardProvider }

theorem honours_activeRegistry (s : Settings) : Honours s (activeRegistry s) := ⟨rfl, rfl, rfl, rfl⟩

theorem uses_activeRegistry (s : Settings) : (activeRegistry s).Uses (preparedBackend s) :=
  ⟨_, Registry.active?_eq (e := standardEntry s) rfl rfl rfl, Nat.one_pos, rfl⟩

theorem keyOf_standardProvider : Registry.keyOf standardProvider = standardProvider := by
  decide +kernel

theorem trim_standardProvider : Text.trim standardProvider = standardProvider := by
  decide +kernel

theorem find?_entries (h : r.entries = only standardProvider (standardEntry s)) :
    r.find? name =
      if Registry.keyOf name = standardProvider then some (standardEntry s) else none := by
  rw [Registry.find?, h, find?_only]

theorem activate_standard (h : r.entries = only standardProvider (standardEntry s))
    (hname : Registry.keyOf name = standardProvider) :
    r.activate name =
      (({ r with active := some standardProvider } : Registry).tellProvider standardProvider,
        .ok ()) := by
  rw [Registry.activate]
  unfold Registry.activateWith
  rw [find?_entries h, if_pos hname]
  dsimp only [standardEntry]
  rw [hname]

theorem activate_unknown (h : r.entries = only standardProvider (standardEntry s))
    (hname : Registry.keyOf name ≠ standardProvider) :
    r.activate name = (r, .error (.notRegistered name)) := by
  rw [Registry.activate]
  unfold Registry.activateWith
  rw [find?_entries h, if_neg hname]

/-- Whatever provider is asked for, it is the one that there is which becomes active. -/
theorem activateAny_eq (s : Settings) (name : String) :
    activateAny name (preparedRegistry s) = (activeRegistry s, .ok ()) := by
  have hentries : (preparedRegistry s).entries = only standardProvider (standardEntry s) := rfl
  have hactive := activate_standard hentries keyOf_standardProvider
  rw [activateAny]
  by_cases hname : Registry.keyOf name = standardProvider
  · rw [activate_standard hentries hname]
    rfl
  · rw [activate_unknown hentries hname]
    exact hactive

/-! ### Changes in a row -/

theorem makeChanges_cons {change : Change} (h : change r = (r', .ok ())) (changes : List Change) :
    makeChanges r (change :: changes) = makeChanges r' changes := by
  rw [makeChanges, h]

theorem makeChanges_append (r : Registry) (first second : List Change) :
    makeChanges r (first ++ second) =
      match makeChanges r first with
      | (r', .ok ()) => makeChanges r' second
      | (r', .error e) => (r', .error e) := by
  induction first generalizing r with
  | nil => rfl
  | cons change first ih =>
    rw [List.cons_append, makeChanges, makeChanges]
    cases change r with
    | mk r' result =>
      cases result with
      | ok u => exact ih r'
      | error e => rfl

/-- The registry with the maker of the provider. -/
def suppliedRegistry (s : Settings) : Registry where
  makers := [⟨.named standardProvider, 0, [], [], []⟩]
  retriesEnabled := s.retries.enabled

/-- When the provider is active, a model and a template are left to be chosen. -/
theorem makeRegistry_eq (s : Settings) :
    makeRegistry s = makeChanges (activeRegistry s)
      (s.provider.model.toList.map chooseModel ++
        s.provider.template.toList.map fun id r => r.setTemplate id) := by
  -- The only entry, as it is registered and as it is once it has a policy.
  let bare : Registry.Entry := ⟨standardProvider, .made 0, 0, none, none⟩
  let registered : Registry :=
    { suppliedRegistry s with nextRegistration := 1, entries := only standardProvider bare }
  let governed : Registry :=
    { registered with entries := only standardProvider { bare with policy := some s.policy } }
  -- With a single entry, looking it up and replacing it are plain equations.
  have hfind : ∀ (r : Registry) e, r.entries = only standardProvider e →
      r.find? standardProvider = some e := by
    intro r e he
    rw [Registry.find?, he, keyOf_standardProvider, find?_only, if_pos rfl]
  have hset : ∀ (r : Registry) e e', r.entries = only standardProvider e →
      r.setEntry standardProvider e' = { r with entries := only standardProvider e' } := by
    intro r e e' he
    rw [Registry.setEntry, keyOf_standardProvider, he, insert_only]
  -- The first three changes, one by one.
  have hregister : (suppliedRegistry s).register standardProvider (.made 0) =
      (registered, .ok ()) := by
    rw [Registry.register_of_inactive rfl, Registry.setEntry, keyOf_standardProvider,
      trim_standardProvider]
    rfl
  have hpolicy : registered.setPolicy standardProvider s.policy = (governed, .ok ()) := by
    rw [Registry.setPolicy_of_find? (hfind registered bare rfl), hset _ bare _ rfl]
  have hprepare : governed.prepare standardProvider s.options = (preparedRegistry s, .ok ()) := by
    rw [Registry.prepare_of_idle (hfind governed _ rfl) rfl rfl rfl ⟨rfl, rfl⟩ rfl,
      hset _ { bare with policy := some s.policy } _ rfl]
    rfl
  -- The activation is the fourth; what is left are the choices of the settings.
  calc makeRegistry s
      = makeChanges (suppliedRegistry s) (changes s 0) := rfl
    _ = makeChanges (activeRegistry s) _ := by
      rw [changes, List.append_assoc, List.cons_append, makeChanges_cons hregister,
        List.cons_append, makeChanges_cons hpolicy, List.cons_append, makeChanges_cons hprepare,
        List.cons_append, makeChanges_cons (activateAny_eq s _), List.nil_append]

/-! ### Choosing the model and the template -/

/-- The model of the settings is chosen if it can be. -/
theorem chooseModel_spec (h : r.Uses b) (choice : Option String) :
    let chosen := makeChanges r (choice.toList.map chooseModel)
    ((∃ id ∈ choice, b.offered? id = none) ∧ ∃ r' e, chosen = (r', .error e)) ∨
    (∀ id ∈ choice, ∃ info, b.offered? id = some info) ∧
      ∃ r' i, chosen = (r', .ok ()) ∧ r.Alike r' ∧ r'.Uses { b with modelIndex := i } ∧
        b.models[i]? = choice.elim b.models[b.modelIndex]? b.offered? := by
  intro chosen
  cases choice with
  | none => exact .inr ⟨nofun, r, b.modelIndex, rfl, .refl r, h, rfl⟩
  | some id =>
    cases hid : b.offered? id with
    | none =>
      refine .inl ⟨⟨id, rfl, hid⟩, r, .notFound .model id, ?_⟩
      simp only [chosen, Option.toList_some, List.map_cons, makeChanges, chooseModel,
        Registry.setModel_of_none h hid]
    | some info =>
      have halike := Registry.alike_setModel r id
      obtain ⟨i, r', hi, hset, huses, -⟩ := Registry.setModel_of_offered? h hid
      rw [hset] at halike
      refine .inr ⟨fun id' hid' => ?_, r', i, ?_, halike, huses, hi.trans hid.symm⟩
      · obtain rfl := Option.some.inj hid'
        exact ⟨info, hid⟩
      · simp only [chosen, Option.toList_some, List.map_cons, List.map_nil, makeChanges,
          chooseModel, hset]

/-- The template of the settings is chosen if it can be. -/
theorem chooseTemplate_spec (h : r.Uses b) (choice : Option String) :
    let chosen := makeChanges r (choice.toList.map fun id r => r.setTemplate id)
    ((∃ id ∈ choice, ¬b.OffersTemplate id) ∧ ∃ r' e, chosen = (r', .error e)) ∨
    (∀ id ∈ choice, b.OffersTemplate id) ∧
      ∃ r', chosen = (r', .ok ()) ∧ r.Alike r' ∧
        r'.Uses { b with template := choice.or b.template } := by
  intro chosen
  cases choice with
  | none => exact .inr ⟨nofun, r, rfl, .refl r, h⟩
  | some id =>
    by_cases hid : b.OffersTemplate id
    · have halike := Registry.alike_setTemplate r id
      obtain ⟨r', hset, huses, -⟩ := Registry.setTemplate_of_offers h hid
      rw [hset] at halike
      refine .inr ⟨fun id' hid' => ?_, r', ?_, halike, huses⟩
      · obtain rfl := Option.some.inj hid'
        exact hid
      · simp only [chosen, Option.toList_some, List.map_cons, List.map_nil, makeChanges, hset]
    · refine .inl ⟨⟨id, rfl, hid⟩, r, .notFound .template id, ?_⟩
      simp only [chosen, Option.toList_some, List.map_cons, makeChanges,
        Registry.setTemplate_of_not_offers h hid]

/-- Whether the provider has the model and the template that the settings name, if they name any. -/
def Available (s : Settings) : Prop :=
  (∀ id ∈ s.provider.model, ∃ m ∈ Backend.standardModels standardProvider, m.id = id) ∧
    ∀ id ∈ s.provider.template, id ∈ Backend.standardTemplates

theorem Available.configuredModel? (h : Available s) : ∃ m, configuredModel? s = some m := by
  rw [Repl.configuredModel?]
  cases hid : s.provider.model with
  | none => exact ⟨_, rfl⟩
  | some id => exact Option.isSome_iff_exists.mp (by simpa using h.1 id hid)

/-- The backend of a new conversation. -/
def configuredBackend (s : Settings) (modelIndex : Nat) : Backend :=
  { preparedBackend s with modelIndex, template := configuredTemplate? s }

/-- **The registry of the settings**: it comes about if the model and the template are there, and
then it is as the settings ask. -/
theorem makeRegistry_spec (s : Settings) :
    (¬Available s ∧ ∃ r e, makeRegistry s = (r, .error e)) ∨
    (Available s ∧ ∃ r i, makeRegistry s = (r, .ok ()) ∧ Honours s r ∧
      r.Uses (configuredBackend s i) ∧
      (Backend.standardModels standardProvider)[i]? = configuredModel? s) := by
  have hmodels : ∀ id, (∃ info, (preparedBackend s).offered? id = some info) ↔
      ∃ m ∈ Backend.standardModels standardProvider, m.id = id := fun id =>
    Backend.exists_offered?_iff.trans (and_iff_left rfl)
  rw [makeRegistry_eq, makeChanges_append]
  rcases chooseModel_spec (uses_activeRegistry s) s.provider.model with
    ⟨⟨id, hid, hnone⟩, r, e, hchosen⟩ | ⟨hmodel, r, i, hchosen, halike, huses, hi⟩
  · refine .inl ⟨fun h => ?_, r, e, by rw [hchosen]⟩
    obtain ⟨info, hinfo⟩ := (hmodels id).mpr (h.1 id hid)
    rw [hnone] at hinfo
    cases hinfo
  rw [hchosen]
  rcases chooseTemplate_spec huses s.provider.template with
    ⟨⟨id, hid, hnone⟩, r', e, hchosen'⟩ | ⟨htemplate, r', hchosen', halike', huses'⟩
  · exact .inl ⟨fun h => hnone ⟨h.2 id hid, rfl⟩, r', e, hchosen'⟩
  · refine .inr ⟨⟨fun id hid => (hmodels id).mp (hmodel id hid), fun id hid => (htemplate id hid).1⟩,
      r', i, hchosen', (honours_activeRegistry s).alike (halike.trans halike'), huses', ?_⟩
    refine hi.trans ?_
    rw [configuredModel?]
    cases s.provider.model <;> rfl

/-! ### What happens to a conversation -/

/-- What can happen to a conversation. -/
inductive Happening where
  /-- The user gives a command. -/
  | command (x : Command)
  /-- Something happens to a backend that is not the registry's doing. -/
  | adjust (id : BackendId) (change : Backend → Backend)
  /-- Other random numbers come up. -/
  | draw (draws : Nat → Float)

end Repl

namespace Conversation

open Repl (Happening Honours)

variable {c : Conversation} {s : Settings}

/-- The conversation after something has happened to it. -/
def happen (c : Conversation) : Happening → Conversation
  | .command x => c.obey x
  | .adjust id change => c.withRegistry (c.registry.adjust id change)
  | .draw draws => c.withRegistry { c.registry with draws }

/-- The conversation after one thing has happened to it after the other. -/
def live (c : Conversation) (happenings : List Happening) : Conversation :=
  happenings.foldl happen c

theorem ask_attachment (c : Conversation) (text status : String) :
    (c.ask text status).attachment = c.attachment := by
  let o := (c.opened text status).withRegistry ((c.opened text status).consult c.registry).1
  -- To settle an answer of the conversation as it is changes nothing that it asks with.
  have hsettle := congrArg attachment (settle_mapAsking o
    (fun _ => ⟨o.registry, o.attachment, o.focus⟩) ((c.opened text status).consult c.registry).2)
  rw [ask_eq]
  exact hsettle

theorem switch_keeps {α : Type} (c : Conversation) (change : Registry × Except Registry.Error α)
    (success : α → String) :
    (c.switch change success).registry = change.1 ∧
      (c.switch change success).attachment = c.attachment := by
  obtain ⟨notice, hnotice⟩ := exists_switch_eq c change success
  rw [hnotice]
  exact ⟨rfl, rfl⟩

theorem obey_attachment (c : Conversation) (x : Command) :
    (c.obey x).attachment = c.attachment := by
  cases hx : x.words? with
  | some text =>
    obtain ⟨status, hobey⟩ := obey_words (c := c) hx
    rw [hobey, ask_attachment, (recover_keeps c).2.2.2.1]
  | none =>
    cases x with
    | submit text => cases hx
    | prompt text => cases hx
    | reset => rfl
    | provider name => exact (switch_keeps ..).2
    | model id => exact (switch_keeps ..).2
    | template id => exact (switch_keeps ..).2
    | quit => rfl

theorem live_attachment (c : Conversation) (happenings : List Happening) :
    (c.live happenings).attachment = c.attachment := by
  induction happenings generalizing c with
  | nil => rfl
  | cons happening rest ih =>
    refine (ih (c.happen happening)).trans ?_
    cases happening with
    | command x => exact obey_attachment c x
    | adjust id change => rfl
    | draw draws => rfl

end Conversation

namespace Repl

open Files (Disk Location)

variable {s : Settings} {r : Registry} {c : Conversation}

/-- Only the one provider can become active. -/
theorem Honours.activate (h : Honours s r) (name : String) : Honours s (r.activate name).1 := by
  by_cases hname : Registry.keyOf name = standardProvider
  · rw [activate_standard h.entries hname]
    exact ⟨h.entries, rfl, h.single, h.retries⟩
  · rw [activate_unknown h.entries hname]
    exact h

/-- A command changes the registry in one of a few ways. -/
theorem Honours.obey (h : Honours s c.registry) (x : Command) : Honours s (c.obey x).registry := by
  cases hx : x.words? with
  | some text =>
    rw [(Conversation.obey_words_keeps hx).1]
    exact h.alike (Registry.alike_complete ..)
  | none =>
    cases x with
    | submit text => cases hx
    | prompt text => cases hx
    | reset => exact h
    | provider name =>
      rw [Conversation.obey, (c.switch_keeps ..).1]
      exact h.activate name
    | model id =>
      rw [Conversation.obey, (c.switch_keeps ..).1]
      exact h.alike (Registry.alike_setModel ..)
    | template id =>
      rw [Conversation.obey, (c.switch_keeps ..).1]
      exact h.alike (Registry.alike_setTemplate ..)
    | quit => exact h

theorem Honours.happen (h : Honours s c.registry) (happening : Happening) :
    Honours s (c.happen happening).registry := by
  cases happening with
  | command x => exact h.obey x
  | adjust id change => exact h.alike (Registry.alike_setBackend ..)
  | draw draws => exact ⟨h.entries, h.active, h.single, h.retries⟩

/-- **Nothing that happens** undoes what the settings ask for. -/
theorem Honours.live (h : Honours s c.registry) (happenings : List Happening) :
    Honours s (c.live happenings).registry := by
  induction happenings generalizing c with
  | nil => exact h
  | cons happening rest ih => exact ih (h.happen happening)

/-! ### Requests -/

/-- The answer of the provider to a request that ends in some way. -/
def answerOf : Except GivenUp Completion → Completion
  | .ok answer => answer
  | .error g => Registry.giveUp standardProvider g

/-- The registry after a request that its one backend has been through. -/
def afterRun (r : Registry) (run : Retry.Run Backend Completion) : Registry :=
  { r with
    backends := [run.state]
    statistics := r.statistics.recordRun run
    announcements := r.announcements ++
      run.announcements.map fun x => (standardProvider ++ ".completion", x)
    waited := r.waited + run.waited }

theorem Honours.active? (h : Honours s r) : r.active? = .ok ⟨standardProvider, 0, s.policy⟩ :=
  Registry.active?_eq h.active (by rw [h.entries, find?_only, if_pos rfl]) rfl

theorem Honours.activeName? (h : Honours s r) : r.activeName? = some standardProvider := by
  rw [Registry.activeName?, h.active]
  simp [h.entries, find?_only, standardEntry]

/-- A request goes to the one backend, by the policy of the settings. -/
theorem Honours.complete (h : Honours s r) : ∃ b, r.activeBackend? = .ok b ∧
    ∀ messages tools,
      let run := Retry.execute (s.policy.effective s.retries.enabled) r.draws
        (Backend.complete messages tools) b
      r.complete messages tools = (afterRun r run, .ok (answerOf run.result)) := by
  obtain ⟨b, hb⟩ := List.length_eq_one_iff.mp h.single
  have hactive := h.active?
  -- There is one backend, the policy is that of the settings, and so is the label.
  have hbackend : r.backend 0 = b := by
    rw [Registry.backend, hb]
    rfl
  have hpolicy : s.policy.effective r.retriesEnabled = s.policy.effective s.retries.enabled := by
    rw [h.retries]
  have hlabel : standardProvider ++ "." ++ "completion" = standardProvider ++ ".completion" :=
    String.append_assoc
  refine ⟨b, ?_, fun messages tools => Prod.ext ?_ ?_⟩
  · rw [Registry.activeBackend?, hactive, ← hbackend]
    rfl
  · rw [Registry.complete_eq_call hactive]
    simp only [Registry.call, Registry.setBackend, hpolicy, hbackend, hlabel, hb]
    rfl
  · rw [Registry.complete_result hactive]
    simp only [Registry.call, hpolicy, hbackend]
    rfl

/-- Without retries a request makes one call, and nothing is noted of it but by the backend. -/
theorem afterRun_disabled (r : Registry) (messages : List Message) (tools : List ToolDefinition)
    (b : Backend) :
    let call := b.complete messages tools
    let run := Retry.execute .disabled r.draws (Backend.complete messages tools) b
    afterRun r run = { r with backends := [call.2] } ∧ run.result = Retry.conclude call.1 0 := by
  intro call run
  have hrun : run = ⟨call.2, Retry.conclude call.1 0, []⟩ := by
    simp only [run, Retry.execute, Retry.Policy.disabled]
    rw [show (0 : UInt32).toNat = 0 from rfl, Retry.loop]
    cases hcall : b.complete messages tools with
    | mk outcome after =>
      simp only [call, hcall]
      cases outcome with
      | ok answer => rfl
      | error f => dsimp only; split <;> rfl
  have hstatistics : r.statistics.recordRun run = r.statistics := by
    rw [hrun]
    exact Retry.Statistics.record_zero ..
  refine ⟨?_, by rw [hrun]⟩
  rw [afterRun, hstatistics, hrun, List.map_nil, List.append_nil]
  rfl

/-! ### The conversation -/

/-- **A conversation honours its settings.**  Let the directory of the workspace be made.

* The conversation comes about if the provider has the model and the template that the settings
  name, or they name none; otherwise there is none.
* Whatever provider is to be active, it is the one that there is which is active at first, with the
  options of the settings, and with their model and their template or the first ones.
* Whatever happens from then on, it stays the active provider, and prompts get the context of the
  workspace if the settings say so.  A command that takes words of the user to the provider makes
  one request.  If retries are on, a request is a run of calls by the policy of the settings, and
  besides the backend just what is noted of the run changes; if they are off, it is one call, and
  nothing changes but the backend. -/
theorem setUp_honours {d d' : Disk} {directory : Location} {root : Workspace.Root}
    (hroot : makeWorkspace d directory (s.app.workspace.getD standardWorkspace) = (d', .ok root)) :
    ((∃ c, setUp s d directory = (d', .ok c)) ↔ Available s) ∧
    ∀ c, setUp s d directory = (d', .ok c) →
      (∃ i, c.registry.activeBackend? = .ok (configuredBackend s i)) ∧
      c.registry.activeName? = some standardProvider ∧
      c.registry.options? = .ok s.options ∧
      (∃ m, configuredModel? s = some m ∧ c.registry.model? = .ok m) ∧
      c.registry.template? = .ok (configuredTemplate? s) ∧
      ∀ happenings,
        let now := c.live happenings
        let r := now.registry
        r.activeName? = some standardProvider ∧
        (∀ text, now.enrich text = if s.context.enabled then
          (Context.Source.ofWorkspace root).enrich now.focus s.limits now.disk text else text) ∧
        (∀ (x : Command) (text : String), x.words? = some text → (now.obey x).registry =
          (r.complete (now.recover.sent text) now.executor.toolbox.definitions).1) ∧
        ∃ b, r.activeBackend? = .ok b ∧ ∀ messages tools,
          (s.retries.enabled = true →
            let run := Retry.execute s.policy r.draws (Backend.complete messages tools) b
            r.complete messages tools = (afterRun r run, .ok (answerOf run.result))) ∧
          (s.retries.enabled = false →
            let call := b.complete messages tools
            r.complete messages tools = ({ r with backends := [call.2] },
              .ok (answerOf (Retry.conclude call.1 0)))) := by
  rcases makeRegistry_spec s with
    ⟨hnot, r, e, hmake⟩ | ⟨havailable, r, i, hmake, hhonours, huses, hi⟩
  · have hsetUp : setUp s d directory = (d', .error (.registry e)) := by
      rw [setUp, hroot]
      dsimp only
      rw [hmake]
    rw [hsetUp]
    refine ⟨iff_of_false ?_ hnot, ?_⟩
    · rintro ⟨c, hc⟩
      cases hc
    · intro c hc
      cases hc
  have hsetUp : setUp s d directory = (d', .ok (converse s r d' root)) := by
    rw [setUp, hroot]
    dsimp only
    rw [hmake]
  rw [hsetUp]
  refine ⟨iff_of_true ⟨_, rfl⟩ havailable, fun c hc => ?_⟩
  obtain rfl : converse s r d' root = c := Except.ok.inj (Prod.mk.inj hc).2
  -- From here on the registry has been made, and `c` is the conversation that starts with it.
  obtain ⟨m, hm⟩ := havailable.configuredModel?
  refine ⟨⟨i, huses.activeBackend?⟩, hhonours.activeName?, ?_, ⟨m, hm, ?_⟩, huses.template?,
    fun happenings => ?_⟩
  · change r.options? = _
    rw [Registry.options?, huses.activeBackend?]
    rfl
  · refine huses.model?.trans (congrArg Except.ok ?_)
    change ((Backend.standardModels standardProvider)[i]?).getD .unknown = m
    rw [hi, hm, Option.getD_some]
  · -- What the settings ask for stays in force through whatever happens.
    have hnow := hhonours.live (c := converse s r d' root) happenings
    obtain ⟨b, hb, hcomplete⟩ := hnow.complete
    refine ⟨hnow.activeName?, fun text => ?_, fun x text hx => (Conversation.obey_words_keeps hx).1,
      b, hb, fun messages tools => ⟨fun henabled => ?_, fun hdisabled => ?_⟩⟩
    · rw [Conversation.enrich, Conversation.live_attachment]
      rfl
    · have hrun := hcomplete messages tools
      rw [henabled] at hrun
      exact hrun
    · -- Without retries the run is a single call.
      have hrun := hcomplete messages tools
      obtain ⟨hafter, hresult⟩ := afterRun_disabled ((converse s r d' root).live happenings).registry
        messages tools b
      rw [hdisabled] at hrun
      exact hrun.trans (by rw [Retry.Policy.effective, if_neg Bool.false_ne_true, hafter, hresult])

/-- Settings with a provider that there is not, a model that there is, and no retries. -/
def elsewhere : Settings where
  provider := { active := "Elsewhere", model := some "mock-large" }
  retries := { enabled := false }

/-- The other provider becomes active, with its model, and a request makes one call, whatever its
backend does. -/
theorem setUp_honours_elsewhere :
    let d : Disk := ⟨[(["workspace"], .directory)]⟩
    makeWorkspace .empty [] (elsewhere.app.workspace.getD standardWorkspace) =
        (d, .ok { path := ["workspace"] }) ∧
      ∃ c, setUp elsewhere .empty [] = (d, .ok c) ∧
        c.registry.activeName? = some "mock" ∧
        (∃ m, c.registry.model? = .ok m ∧ m.id = "mock-large") ∧
        c.registry.template? = .ok (some "default") ∧
        ∀ (change : Backend → Backend) (messages : List Message),
          let r := (c.live [.command (.provider "elsewhere"), .adjust 0 change]).registry
          (r.complete messages []).1.statistics = r.statistics := by
  intro d
  have hroot : makeWorkspace .empty [] (elsewhere.app.workspace.getD standardWorkspace) =
      (d, .ok { path := ["workspace"] }) := by
    decide +kernel
  obtain ⟨hiff, hhonours⟩ := setUp_honours hroot
  obtain ⟨c, hc⟩ := hiff.mpr ⟨fun id hid => by cases hid; decide +kernel, nofun⟩
  obtain ⟨-, hname, -, ⟨m, hm, hmodel⟩, htemplate, hlive⟩ := hhonours c hc
  refine ⟨hroot, c, hc, hname, ⟨m, hmodel, by cases hm; rfl⟩, htemplate,
    fun change messages => ?_⟩
  obtain ⟨-, -, -, b, -, hcomplete⟩ :=
    hlive [.command (.provider "elsewhere"), .adjust 0 change]
  exact congrArg (fun x => x.1.statistics) ((hcomplete messages []).2 rfl)

end Repl

end Colloquy
