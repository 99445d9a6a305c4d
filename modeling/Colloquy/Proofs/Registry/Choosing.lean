import Colloquy.Proofs.Registry.Boundary

/-!
# Choosing a model and a template

A model is chosen by its id, but the backend remembers its place in the catalogue, and ids may occur
more than once there.  What is asked for is looked up twice, by the registry and by the backend,
which may refuse to change.

* `Backend.offered?`, `Backend.OffersTemplate`: what can be chosen;
* `setModel_of_offered?`, `setTemplate_of_offers`, `setModel_of_none`, `setTemplate_of_not_offers`:
  what one choice does to a registry;
* `Uses.chooseAll`: what any number of choices does;
* `choices_exact`: the next choice after any number of them.
-/

namespace Colloquy

open Provider (Backend ModelInfo)

/-! ### Choices of a backend -/

namespace Provider.Backend

variable {b : Backend} {id : String} {info : ModelInfo}

/-- The model that can be chosen by an id: the first one in the catalogue that has it. -/
def offered? (b : Backend) (id : String) : Option ModelInfo :=
  if b.refusesSwitch then none else b.models.find? fun m => m.id == id

/-- Whether a template can be chosen. -/
def OffersTemplate (b : Backend) (template : String) : Prop :=
  template ∈ b.templates ∧ b.refusesSwitch = false

instance (b : Backend) (template : String) : Decidable (b.OffersTemplate template) :=
  inferInstanceAs (Decidable (_ ∧ _))

/-- Whether the current model is one of the catalogue. -/
def HasModel (b : Backend) : Prop :=
  b.modelIndex < b.models.length

theorem hasModel_withModels (b : Backend) {models : List ModelInfo} (h : models ≠ []) :
    (b.withModels models).HasModel :=
  List.length_pos_iff.mpr h

theorem HasModel.currentModel_mem (h : b.HasModel) : b.currentModel ∈ b.models := by
  rw [currentModel, List.getElem?_eq_getElem h]
  exact List.getElem_mem h

theorem exists_offered?_iff :
    (∃ info, b.offered? id = some info) ↔
      (∃ m ∈ b.models, m.id = id) ∧ b.refusesSwitch = false := by
  rw [← Option.isSome_iff_exists, offered?]
  cases b.refusesSwitch <;> simp

/-- The place of a model that is chosen. -/
theorem setModel_of_offered? (h : b.offered? id = some info) :
    ∃ i, b.models[i]? = some info ∧ b.setModel id = (true, { b with modelIndex := i }) := by
  rw [offered?] at h
  split_ifs at h with hrefuses
  rw [List.find?_eq_bind_findIdx?_getElem?] at h
  obtain ⟨i, hi, hmodel⟩ := Option.bind_eq_some_iff.mp h
  refine ⟨i, hmodel, ?_⟩
  rw [setModel, if_neg hrefuses, hi]

theorem setModel_of_none (h : b.offered? id = none) : b.setModel id = (false, b) := by
  rw [offered?] at h
  rw [setModel]
  split_ifs at h ⊢ with hrefuses
  · rfl
  · rw [List.findIdx?_eq_none_iff.mpr fun m hm => by simpa using List.find?_eq_none.mp h m hm]

theorem setTemplate_eq (b : Backend) (template : String) :
    b.setTemplate template =
      if b.OffersTemplate template then (true, { b with template := some template })
      else (false, b) := by
  rw [setTemplate]
  cases hrefuses : b.refusesSwitch <;> simp [OffersTemplate, hrefuses]

end Provider.Backend

/-! ### Choices in a registry -/

namespace Registry

variable {r r' : Registry} {b b' : Backend} {id : String} {info : ModelInfo}

/-- Whether the active provider has a backend that is there, and which. -/
def Uses (r : Registry) (b : Backend) : Prop :=
  ∃ a, r.active? = .ok a ∧ a.backend < r.backends.length ∧ r.backend a.backend = b

theorem Sound.uses (hr : r.Sound) (h : r.activeBackend? = .ok b) : r.Uses b := by
  rw [activeBackend?] at h
  cases ha : r.active? with
  | error e =>
    rw [ha] at h
    cases h
  | ok a =>
    rw [ha] at h
    exact ⟨a, ha, hr.lt_of_active? ha, Except.ok.inj h⟩

theorem Uses.activeBackend? (h : r.Uses b) : r.activeBackend? = .ok b := by
  obtain ⟨a, ha, -, rfl⟩ := h
  rw [Registry.activeBackend?, ha]
  rfl

theorem Uses.model? (h : r.Uses b) : r.model? = .ok b.currentModel := by
  rw [Registry.model?, h.activeBackend?]
  rfl

theorem Uses.template? (h : r.Uses b) : r.template? = .ok b.template := by
  rw [Registry.template?, h.activeBackend?]
  rfl

theorem Uses.supports (h : r.Uses b) (capability : String) :
    r.supports capability = b.supports capability := by
  rw [Registry.supports, h.activeBackend?]

/-- The active provider goes on with its backend when that has been changed. -/
theorem uses_setBackend {a : Active} (ha : r.active? = .ok a)
    (hlt : a.backend < r.backends.length) (b' : Backend) (notices : List Notice) :
    ({ r.setBackend a.backend b' with notices } : Registry).Uses b' := by
  obtain ⟨key, e, hkey, he, hid⟩ := exists_of_active? ha
  refine ⟨_, active?_eq hkey he hid, ?_, ?_⟩
  · exact hlt.trans_eq (List.length_set ..).symm
  · exact (backend_setBackend r a.backend a.backend b').trans (if_pos ⟨rfl, hlt⟩)

/-- **A model that is offered** is the current one from then on, and the listeners are told. -/
theorem setModel_of_offered? (h : r.Uses b) (hid : b.offered? id = some info) :
    ∃ i r', b.models[i]? = some info ∧ r.setModel id = (r', .ok info) ∧
      r'.Uses { b with modelIndex := i } ∧
      r'.notices = r.notices ++ notify r.modelListeners (.model info) := by
  obtain ⟨a, ha, hlt, hb⟩ := h
  obtain ⟨i, hi, hset⟩ := Backend.setModel_of_offered? hid
  have hcurrent : ({ b with modelIndex := i } : Backend).currentModel = info := by
    rw [Backend.currentModel, hi, Option.getD_some]
  obtain ⟨hknown, -⟩ := Backend.exists_offered?_iff.mp ⟨info, hid⟩
  have hany : (b.models.any fun m => m.id == id) = true := by simpa using hknown
  refine ⟨i, _, hi, ?_, uses_setBackend ha hlt { b with modelIndex := i }
    (r.notices ++ notify r.modelListeners (.model info)), rfl⟩
  simp only [setModel, ha, hb, hany, hset, hcurrent, Bool.not_true, Bool.false_eq_true, if_false]
  rfl

/-- A model that is not offered changes nothing. -/
theorem setModel_of_none (h : r.Uses b) (hid : b.offered? id = none) :
    r.setModel id = (r, .error (.notFound .model id)) := by
  obtain ⟨a, ha, -, rfl⟩ := h
  simp only [setModel, ha, Backend.setModel_of_none hid, ite_self]

/-- **A template that is offered** is the current one from then on, and the listeners are told. -/
theorem setTemplate_of_offers (h : r.Uses b) (hid : b.OffersTemplate id) :
    ∃ r', r.setTemplate id = (r', .ok ()) ∧ r'.Uses { b with template := some id } ∧
      r'.notices = r.notices ++ notify r.templateListeners (.template id) := by
  obtain ⟨a, ha, hlt, rfl⟩ := h
  refine ⟨_, ?_, uses_setBackend ha hlt { r.backend a.backend with template := some id }
    (r.notices ++ notify r.templateListeners (.template id)), rfl⟩
  simp only [setTemplate, ha, Backend.setTemplate_eq, if_pos hid,
    List.contains_iff_mem.mpr hid.1, Bool.not_true, Bool.false_eq_true, if_false]
  rfl

/-- A template that is not offered changes nothing. -/
theorem setTemplate_of_not_offers (h : r.Uses b) (hid : ¬b.OffersTemplate id) :
    r.setTemplate id = (r, .error (.notFound .template id)) := by
  obtain ⟨a, ha, -, rfl⟩ := h
  simp only [setTemplate, ha, Backend.setTemplate_eq, if_neg hid, ite_self]

/-- What comes of a choice of a model. -/
theorem Uses.setModel (h : r.Uses b) (id : String) :
    ((∃ info, (r.setModel id).2 = .ok info) ↔
      (∃ m ∈ b.models, m.id = id) ∧ b.refusesSwitch = false) ∧
    (∀ info, (r.setModel id).2 = .ok info →
      let next := (r.setModel id).1
      (b.models.find? fun m => m.id == id) = some info ∧ next.model? = .ok info ∧
        next.notices = r.notices ++ notify r.modelListeners (.model info) ∧
        (∀ capability, next.supports capability = info.supports capability) ∧
        next.template? = r.template?) ∧
    ∀ e, (r.setModel id).2 = .error e → (r.setModel id).1 = r := by
  rw [← Backend.exists_offered?_iff]
  cases hid : b.offered? id with
  | none =>
    rw [setModel_of_none h hid]
    exact ⟨⟨nofun, nofun⟩, nofun, fun _ _ => rfl⟩
  | some info =>
    obtain ⟨i, next, hi, hset, huses, hnotices⟩ := setModel_of_offered? h hid
    have hcurrent : ({ b with modelIndex := i } : Backend).currentModel = info := by
      rw [Backend.currentModel, hi, Option.getD_some]
    rw [hset]
    refine ⟨⟨fun _ => ⟨info, rfl⟩, fun _ => ⟨info, rfl⟩⟩, fun info' hinfo => ?_, nofun⟩
    obtain rfl := Except.ok.inj hinfo
    refine ⟨?_, huses.model?.trans (congrArg Except.ok hcurrent), hnotices,
      fun capability => ?_, huses.template?.trans h.template?.symm⟩
    · rw [Backend.offered?] at hid
      split_ifs at hid
      exact hid
    · rw [huses.supports, Backend.supports, hi]

/-- What comes of a choice of a template. -/
theorem Uses.setTemplate (h : r.Uses b) (id : String) :
    ((r.setTemplate id).2 = .ok () ↔ id ∈ b.templates ∧ b.refusesSwitch = false) ∧
    ((r.setTemplate id).2 = .ok () →
      let next := (r.setTemplate id).1
      next.template? = .ok (some id) ∧
        next.notices = r.notices ++ notify r.templateListeners (.template id) ∧
        next.model? = r.model? ∧
        ∀ capability, next.supports capability = r.supports capability) ∧
    ∀ e, (r.setTemplate id).2 = .error e → (r.setTemplate id).1 = r := by
  by_cases hid : b.OffersTemplate id
  · obtain ⟨next, hset, huses, hnotices⟩ := setTemplate_of_offers h hid
    rw [hset]
    exact ⟨iff_of_true rfl hid, fun _ => ⟨huses.template?, hnotices,
      huses.model?.trans h.model?.symm,
      fun capability => (huses.supports capability).trans (h.supports capability).symm⟩, nofun⟩
  · rw [setTemplate_of_not_offers h hid]
    exact ⟨iff_of_false nofun hid, nofun, fun _ _ => rfl⟩

/-! ### Many choices -/

/-- The operation that a choice is. -/
def Choice.operation (id : String) : Choice → Operation
  | model => .setModel id
  | template => .setTemplate id

/-- Makes choices one after the other, whether the earlier ones went well or not. -/
def chooseAll (r : Registry) (choices : List (Choice × String)) : Registry :=
  r.performAll (choices.map fun c => c.1.operation c.2)

/-- The model that a choice comes to. -/
def chosenModel? (b : Backend) : Choice × String → Option ModelInfo
  | (.model, id) => b.offered? id
  | (.template, _) => none

/-- The template that a choice comes to. -/
def chosenTemplate? (b : Backend) : Choice × String → Option String
  | (.model, _) => none
  | (.template, id) => if b.OffersTemplate id then some id else none

/-- The model that choices lead to: the last one that could be chosen. -/
def modelAfter (b : Backend) (choices : List (Choice × String)) : ModelInfo :=
  (choices.filterMap (chosenModel? b)).getLast?.getD b.currentModel

/-- The template that choices lead to: the last one that could be chosen. -/
def templateAfter (b : Backend) (choices : List (Choice × String)) : Option String :=
  (choices.filterMap (chosenTemplate? b)).getLast?.or b.template

/-- Of the results of a list the last one counts, or else the one of what is before it. -/
theorem getLast?_filterMap_cons {α β : Type} (f : α → Option β) (a : α) (as : List α) :
    ((a :: as).filterMap f).getLast? = (as.filterMap f).getLast?.or (f a) := by
  cases ha : f a with
  | none => rw [List.filterMap_cons_none ha, Option.or_none]
  | some b =>
    rw [List.filterMap_cons_some ha, List.getLast?_cons]
    cases (as.filterMap f).getLast? <;> rfl

/-- One choice. -/
theorem Uses.choose (h : r.Uses b) (c : Choice × String) :
    ∃ i t, (r.perform (c.1.operation c.2)).1.Uses { b with modelIndex := i, template := t } ∧
      ({ b with modelIndex := i } : Backend).currentModel =
        (chosenModel? b c).getD b.currentModel ∧
      t = (chosenTemplate? b c).or b.template ∧ (b.HasModel → i < b.models.length) := by
  obtain ⟨choice, id⟩ := c
  cases choice with
  | model =>
    cases hid : b.offered? id with
    | none =>
      -- A model that is not offered changes nothing, and a template likewise.
      have hsame : (r.perform (.setModel id)).1 = r := congrArg Prod.fst (setModel_of_none h hid)
      refine ⟨b.modelIndex, b.template, ?_, ?_, rfl, fun hmodel => hmodel⟩
      · exact hsame.symm ▸ h
      · rw [chosenModel?, hid, Option.getD_none]
    | some info =>
      obtain ⟨i, r', hi, hset, huses, -⟩ := setModel_of_offered? h hid
      have hafter : (r.perform (.setModel id)).1 = r' := congrArg Prod.fst hset
      refine ⟨i, b.template, ?_, ?_, rfl, fun _ => (List.getElem?_eq_some_iff.mp hi).1⟩
      · exact hafter.symm ▸ huses
      · rw [Backend.currentModel, hi, chosenModel?, hid, Option.getD_some, Option.getD_some]
  | template =>
    by_cases hid : b.OffersTemplate id
    · obtain ⟨r', hset, huses, -⟩ := setTemplate_of_offers h hid
      have hafter : (r.perform (.setTemplate id)).1 = r' := congrArg Prod.fst hset
      refine ⟨b.modelIndex, some id, ?_, rfl, ?_, fun hmodel => hmodel⟩
      · exact hafter.symm ▸ huses
      · rw [chosenTemplate?, if_pos hid, Option.some_or]
    · have hsame : (r.perform (.setTemplate id)).1 = r :=
        congrArg Prod.fst (setTemplate_of_not_offers h hid)
      refine ⟨b.modelIndex, b.template, ?_, rfl, ?_, fun hmodel => hmodel⟩
      · exact hsame.symm ▸ h
      · rw [chosenTemplate?, if_neg hid, Option.none_or]

/-- **Any number of choices** lead to the last model and the last template that could be chosen, and
the backend is as it was otherwise. -/
theorem Uses.chooseAll (h : r.Uses b) (choices : List (Choice × String)) :
    ∃ i t, (r.chooseAll choices).Uses { b with modelIndex := i, template := t } ∧
      ({ b with modelIndex := i } : Backend).currentModel = modelAfter b choices ∧
      t = templateAfter b choices ∧ (b.HasModel → i < b.models.length) := by
  induction choices generalizing r b with
  | nil => exact ⟨b.modelIndex, b.template, h, rfl, rfl, fun hmodel => hmodel⟩
  | cons c choices ih =>
    obtain ⟨i, t, huses, hmodel, rfl, hlt⟩ := h.choose c
    obtain ⟨j, u, huses', hmodel', rfl, hlt'⟩ := ih huses
    refine ⟨j, _, huses', ?_, ?_, fun h => hlt' (hlt h)⟩
    · refine hmodel'.trans ?_
      rw [modelAfter, modelAfter, getLast?_filterMap_cons, Option.getD_or, ← hmodel]
      rfl
    · rw [templateAfter, templateAfter, getLast?_filterMap_cons, Option.or_assoc]
      rfl

/-- **Choosing a model and a template.**  Let any choices be made in a registry whose active provider
has some backend, and then one more.

* The choices have led to the last model and to the last template that could be chosen; without one,
  they are as they were.  The catalogue and the list of templates stay as they are.
* A model can be chosen if its id is in the catalogue and the backend does not refuse.  Then the
  first model with this id is the current one, it is what comes back and what the listeners are
  told, its abilities are those that are supported, and the template is as it was.
* A template can be chosen if it is listed and the backend does not refuse.  Then it is the current
  one, the listeners are told, and the model is as it was.
* A choice that fails leaves everything as it is, and nobody is told.
* Once a backend has been given a catalogue with models in it, its current model is always one of
  them. -/
theorem choices_exact (hr : r.Reachable) (hb : r.activeBackend? = .ok b)
    (choices : List (Choice × String)) :
    let now := r.chooseAll choices
    (now.model? = .ok (modelAfter b choices) ∧ now.template? = .ok (templateAfter b choices) ∧
      now.models? = .ok b.models ∧ now.templates? = .ok b.templates) ∧
    (∀ id, ((∃ info, (now.setModel id).2 = .ok info) ↔
        (∃ m ∈ b.models, m.id = id) ∧ b.refusesSwitch = false) ∧
      (∀ info, (now.setModel id).2 = .ok info →
        let next := (now.setModel id).1
        (b.models.find? fun m => m.id == id) = some info ∧ next.model? = .ok info ∧
          next.notices = now.notices ++ notify now.modelListeners (.model info) ∧
          (∀ capability, next.supports capability = info.supports capability) ∧
          next.template? = now.template?) ∧
      ∀ e, (now.setModel id).2 = .error e → (now.setModel id).1 = now) ∧
    (∀ id, ((now.setTemplate id).2 = .ok () ↔ id ∈ b.templates ∧ b.refusesSwitch = false) ∧
      ((now.setTemplate id).2 = .ok () →
        let next := (now.setTemplate id).1
        next.template? = .ok (some id) ∧
          next.notices = now.notices ++ notify now.templateListeners (.template id) ∧
          next.model? = now.model? ∧
          ∀ capability, next.supports capability = now.supports capability) ∧
      ∀ e, (now.setTemplate id).2 = .error e → (now.setTemplate id).1 = now) ∧
    (b.HasModel → ∃ m ∈ b.models, now.model? = .ok m) ∧
    ∀ (b₀ : Backend) (models : List ModelInfo), models ≠ [] → (b₀.withModels models).HasModel := by
  intro now
  obtain ⟨i, t, huses, hmodel, ht, hlt⟩ := (hr.sound.uses hb).chooseAll choices
  have hmodel? : now.model? = .ok (modelAfter b choices) := huses.model?.trans (hmodel ▸ rfl)
  refine ⟨⟨hmodel?, huses.template?.trans (ht ▸ rfl), ?_, ?_⟩, huses.setModel, huses.setTemplate,
    fun h => ⟨modelAfter b choices, ?_, hmodel?⟩, fun b₀ models => b₀.hasModel_withModels⟩
  · rw [models?, huses.activeBackend?]
    rfl
  · rw [templates?, huses.activeBackend?]
    rfl
  · rw [← hmodel]
    exact Backend.HasModel.currentModel_mem (b := { b with modelIndex := i }) (hlt h)

/-- A backend with two models of the same id. -/
def twins : Backend :=
  (Backend.named "m").withModels [.named "a" "one", .named "b" "one", .named "a" "two"]

/-- Of the two models with the same id the first one is chosen. -/
theorem choices_exact_twins :
    let r := after true .empty (fun _ => 0.5)
      [.addBackend twins, .register "m" (.shared 0), .activate "m", .listen .model .fine]
    let now := r.chooseAll [(.template, "code"), (.model, "b"), (.model, "c")]
    r.Reachable ∧ r.activeBackend? = .ok { twins with prepared := true } ∧
      now.model? = .ok (.named "b" "one") ∧ now.template? = .ok (some "code") ∧
      (now.setModel "a").1.model? = .ok (.named "a" "one") := by
  intro r now
  have hr : r.Reachable := ⟨_, _, _, _, rfl⟩
  have hb : r.activeBackend? = .ok { twins with prepared := true } := by rfl
  obtain ⟨⟨hmodel, htemplate, -, -⟩, hset, -⟩ :=
    choices_exact hr hb [(.template, "code"), (.model, "b"), (.model, "c")]
  obtain ⟨hiff, hok, -⟩ := hset "a"
  obtain ⟨info, hinfo⟩ := hiff.mpr (by decide +kernel)
  obtain ⟨hfind, hnext, -⟩ := hok info hinfo
  obtain rfl : ModelInfo.named "a" "one" = info := Option.some.inj hfind
  exact ⟨hr, hb, hmodel, htemplate, hnext⟩

end Registry

end Colloquy
