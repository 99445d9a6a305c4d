import Colloquy.Proofs.Data.Entries
import Colloquy.Proofs.Data.Firsts
import Colloquy.Proofs.Tool.Dispatch
import Mathlib.Data.List.Induction

/-!
# Registering tools

A toolbox is one list of tools.  An `Index` keeps them in two parts: a dictionary of the tools, and
beside it the names in the order in which they came up.  A tool whose name were not in the order
would be executed without being declared, and one whose name were there twice would be declared
twice; so the two have to be in step.

* `registered?`: the tool that is registered last under a name;
* `Toolbox.find?_registerAll`, `Toolbox.firstsOf_registerAll`: what is found in a toolbox after any
  registrations, and the names in which order;
* `Indexes`: an index of a toolbox; `Indexes.register`: one registration keeps it so;
* `exists_executes_iff`: what can be executed under a name is what is declared under it;
* `registered_in_step`: an index and its toolbox after any registrations.
-/

namespace Colloquy.Tool

open Files (Disk)
open Provider (ToolCall ToolDefinition)

variable {t : Tool} {name : String}

/-! ### Toolboxes -/

/-- The tool that is registered last under a name. -/
def registered? (ts : List Tool) (name : String) : Option Tool :=
  ts.findRev? fun t => t.name == name

theorem registered?_concat (ts : List Tool) (t : Tool) (name : String) :
    registered? (ts ++ [t]) name = if t.name = name then some t else registered? ts name := by
  rw [registered?, findRev?_concat]
  simp only [beq_iff_eq]
  rfl

namespace Toolbox

variable {b : Toolbox}

theorem name_of_find? (h : b.find? name = some t) : t ∈ b.tools ∧ t.name = name :=
  ⟨List.mem_of_find?_eq_some h, by simpa using List.find?_some h⟩

/-- Something is found under the names of the tools, and under no other name. -/
theorem mem_names_iff : name ∈ b.names ↔ ∃ t, b.find? name = some t := by
  constructor
  · intro h
    obtain ⟨t, ht, rfl⟩ := List.mem_map.mp h
    have hfound : (b.find? t.name).isSome = true :=
      List.find?_isSome.mpr ⟨t, ht, beq_self_eq_true _⟩
    exact Option.isSome_iff_exists.mp hfound
  · rintro ⟨t, h⟩
    obtain ⟨ht, rfl⟩ := name_of_find? h
    exact List.mem_map_of_mem ht

/-- **What is found after any registrations** is what was registered last. -/
theorem find?_registerAll (ts : List Tool) (name : String) :
    (empty.registerAll ts).find? name = registered? ts name := by
  -- The last registration decides, so the tools are taken from the end.
  induction ts using List.reverseRecOn with
  | nil => rfl
  | append_singleton ts t ih =>
    rw [registerAll] at ih ⊢
    rw [List.foldl_append, List.foldl_cons, List.foldl_nil, find?_register, ih,
      registered?_concat]

/-- The names are those of the tools, in the order in which they come up first. -/
theorem firstsOf_registerAll (ts : List Tool) :
    FirstsOf (empty.registerAll ts).names (ts.map Tool.name) := by
  have hempty : FirstsOf empty.names [] := FirstsOf.nil
  exact FirstsOf.foldl names names_register hempty ts

/-- Where names are different, the tools are found by them in order. -/
theorem filterMap_find?_names (h : b.names.Nodup) : b.names.filterMap b.find? = b.tools := by
  have hfind : ∀ t ∈ b.tools, (b.find? ∘ Tool.name) t = some t := fun t ht =>
    find?_name Tool.name h ht
  rw [names, List.filterMap_map, List.filterMap_congr hfind]
  exact List.filterMap_some

theorem map_name_definitions (b : Toolbox) : b.definitions.map ToolDefinition.name = b.names := by
  rw [definitions, List.map_map]
  rfl

end Toolbox

/-! ### Indices -/

/-- Tools by name, and the names in the order in which they came up. -/
structure Index where
  tools : Dictionary Tool
  order : List String

namespace Index

variable {i : Index} {b : Toolbox}

/-- No tools. -/
def empty : Index := ⟨.empty, []⟩

/-- Puts in a tool.  Its name goes to the end of the order unless it replaces another tool. -/
def register (i : Index) (t : Tool) : Index where
  tools := i.tools.insert t.name t
  order := match i.tools.find? t.name with
    | none => i.order ++ [t.name]
    | some _ => i.order

/-- Puts in several tools. -/
def registerAll (i : Index) (ts : List Tool) : Index := ts.foldl register i

/-- The tool with a name. -/
def find? (i : Index) (name : String) : Option Tool := i.tools.find? name

/-- The tools as a provider sees them; a name without a tool is left out. -/
def definitions (i : Index) : List ToolDefinition :=
  (i.order.filterMap i.find?).map definition

/-- Executes the tool with a name. -/
def execute (i : Index) (name : String) (arguments : Json) (d : Disk) : Disk × Outcome :=
  match i.find? name with
  | none => (d, .error { error := .unknownTool name })
  | some t => t.act arguments d

end Index

/-- An index of a toolbox has the same names in the same order, and the same tools under them. -/
structure Indexes (i : Index) (b : Toolbox) : Prop where
  order : i.order = b.names
  find? : ∀ name, i.find? name = b.find? name

namespace Indexes

variable {i : Index} {b : Toolbox}

theorem empty : Indexes .empty .empty :=
  ⟨rfl, fun _ => rfl⟩

/-- **One registration** in an index and in its toolbox. -/
theorem register (h : Indexes i b) (t : Tool) : Indexes (i.register t) (b.register t) := by
  constructor
  · have hfind : i.tools.find? t.name = b.find? t.name := h.find? t.name
    rw [Index.register, hfind, h.order, Toolbox.names_register]
    -- The dictionary says what the list of names would say.
    cases hknown : b.find? t.name with
    | none =>
      have hnew : t.name ∉ b.names := by
        rw [Toolbox.mem_names_iff, hknown]
        rintro ⟨u, hu⟩
        cases hu
      rw [if_neg hnew]
    | some u => rw [if_pos (Toolbox.mem_names_iff.mpr ⟨u, hknown⟩)]
  · intro name
    show (i.tools.insert t.name t).find? name = _
    rw [Dictionary.find?_insert, Toolbox.find?_register, ← h.find?]
    rfl

theorem registerAll (h : Indexes i b) (ts : List Tool) :
    Indexes (i.registerAll ts) (b.registerAll ts) := by
  induction ts generalizing i b with
  | nil => exact h
  | cons t ts ih => exact ih (h.register t)

/-- The names in the order are the keys of the dictionary. -/
theorem mem_order_iff (h : Indexes i b) (name : String) : name ∈ i.order ↔ name ∈ i.tools.keys := by
  rw [h.order, mem_keys_iff, Toolbox.mem_names_iff, ← h.find?]
  rfl

/-- No name is left out of the definitions. -/
theorem definitions (h : Indexes i b) (hnames : b.names.Nodup) : i.definitions = b.definitions := by
  have hfind : i.find? = b.find? := funext h.find?
  rw [Index.definitions, h.order, hfind, Toolbox.filterMap_find?_names hnames]
  rfl

/-- Calls of tools that are done in time come to what the index executes. -/
theorem dispatch {x : Executor} {call : ToolCall} {arguments : Json} (h : Indexes i x.toolbox)
    (hpasses : Passes call arguments)
    (htime : ∀ t, x.toolbox.find? call.name = some t →
      ¬Duration.ofSeconds x.timeoutSeconds < t.delay arguments) (d : Disk) :
    ((x.dispatch call d).disk, (x.dispatch call d).outcome) = i.execute call.name arguments d := by
  rw [Index.execute, h.find?]
  cases hfind : x.toolbox.find? call.name with
  | none =>
    rw [dispatch_disk, dispatch_outcome,
      perform_of_unknown (readArguments_eq_ok_iff.mpr hpasses) hfind]
  | some t =>
    obtain ⟨hdisk, houtcome⟩ :=
      dispatch_of_executes (executes_iff.mpr ⟨hfind, hpasses⟩) (htime t hfind) d
    rw [hdisk, houtcome]

end Indexes

/-! ### Declared and executed -/

/-- What can be executed under a name is what is declared under it. -/
theorem exists_executes_iff {x : Executor} (hnames : x.toolbox.names.Nodup)
    {declared : ToolDefinition} :
    (∃ call t arguments, call.name = name ∧ x.Executes call t arguments ∧
      t.definition = declared) ↔ declared ∈ x.toolbox.definitions ∧ declared.name = name := by
  constructor
  · rintro ⟨call, t, arguments, rfl, hexecutes, rfl⟩
    obtain ⟨ht, hname⟩ := Toolbox.name_of_find? (executes_iff.mp hexecutes).1
    exact ⟨List.mem_map_of_mem ht, hname⟩
  · rintro ⟨hdeclared, rfl⟩
    obtain ⟨t, ht, rfl⟩ := List.mem_map.mp hdeclared
    have hfind : x.toolbox.find? t.name = some t := find?_name Tool.name hnames ht
    -- A call without arguments will do.
    have hblank : Text.isBlankText "" = true := by decide
    have hpasses : Passes ⟨"", t.name, ""⟩ (.object []) := .inl ⟨hblank, rfl⟩
    exact ⟨⟨"", t.name, ""⟩, t, .object [], rfl, executes_iff.mpr ⟨hfind, hpasses⟩, rfl⟩

/-- **An index and its toolbox after any registrations**, whatever the names are.

* The order of the index has no name twice, and its names are the keys of the dictionary.
* There is one definition for each name, and they are in the order in which the names come up first.
  Each is the definition of the tool that is registered last under its name.
* That tool is found under the name, and it is executed.
* The toolbox has the same names, definitions and tools.
* In a toolbox with a time limit a call executes that tool, too, and if it is done in time the call
  comes to what the index executes.  What can be executed under a name is what is declared under
  it. -/
theorem registered_in_step (ts : List Tool) :
    let i := Index.empty.registerAll ts
    let b := Toolbox.empty.registerAll ts
    (i.order.Nodup ∧ ∀ name, name ∈ i.order ↔ name ∈ i.tools.keys) ∧
    (FirstsOf (i.definitions.map ToolDefinition.name) (ts.map Tool.name) ∧
      ∀ declared ∈ i.definitions, ∃ t, registered? ts declared.name = some t ∧
        declared = t.definition) ∧
    (∀ name, i.find? name = registered? ts name ∧
      ∀ arguments d, i.execute name arguments d = match registered? ts name with
        | none => (d, .error { error := .unknownTool name })
        | some t => t.act arguments d) ∧
    (b.names = i.order ∧ b.definitions = i.definitions ∧ ∀ name, b.find? name = i.find? name) ∧
    ∀ seconds, let x : Executor := ⟨b, seconds⟩
      (∀ call t arguments, x.Executes call t arguments ↔
        registered? ts call.name = some t ∧ Passes call arguments) ∧
      (∀ call arguments d, Passes call arguments →
        (∀ t, registered? ts call.name = some t →
          ¬Duration.ofSeconds seconds < t.delay arguments) →
        ((x.dispatch call d).disk, (x.dispatch call d).outcome) =
          i.execute call.name arguments d) ∧
      ∀ name declared, (∃ call t arguments, call.name = name ∧ x.Executes call t arguments ∧
        t.definition = declared) ↔ declared ∈ b.definitions ∧ declared.name = name := by
  intro i b
  have hindex : Indexes i b := Indexes.empty.registerAll ts
  -- Both hold the tools in the order in which their names came up first.
  have hfirsts : FirstsOf b.names (ts.map Tool.name) := Toolbox.firstsOf_registerAll ts
  have hfind : ∀ name, b.find? name = registered? ts name := Toolbox.find?_registerAll ts
  have hfound : ∀ name, i.find? name = registered? ts name := fun name =>
    (hindex.find? name).trans (hfind name)
  have hdefinitions : i.definitions = b.definitions := hindex.definitions hfirsts.nodup
  refine ⟨⟨?_, hindex.mem_order_iff⟩, ⟨?_, fun declared hdeclared => ?_⟩,
    fun name => ⟨hfound name, fun arguments d => ?_⟩,
    ⟨hindex.order.symm, hdefinitions.symm, fun name => (hindex.find? name).symm⟩,
    fun seconds => ⟨fun call t arguments => ?_, fun call arguments d hpasses htime => ?_,
      fun name declared => exists_executes_iff hfirsts.nodup⟩⟩
  · rw [hindex.order]
    exact hfirsts.nodup
  · rw [hdefinitions, Toolbox.map_name_definitions]
    exact hfirsts
  · rw [hdefinitions] at hdeclared
    obtain ⟨t, ht, rfl⟩ := List.mem_map.mp hdeclared
    exact ⟨t, (hfind t.name).symm.trans (find?_name Tool.name hfirsts.nodup ht), rfl⟩
  · rw [Index.execute, hfound]
  · rw [executes_iff, ← hfind]
  · refine Indexes.dispatch (x := ⟨b, seconds⟩) hindex hpasses (fun t ht => ?_) d
    exact htime t ((hfind call.name).symm.trans ht)

/-- A tool, another one, and a tool that replaces the first. -/
def replacedPing : List Tool :=
  [ofScript { name := "ping", content := "pong" }, ofScript { name := "echo", echo := true },
    ofScript { name := "ping", description := "Reply with PONG", content := "PONG" }]

/-- The tool that replaces the first is declared in its place, and it is executed. -/
theorem replacedPing_in_step :
    let i := Index.empty.registerAll replacedPing
    let x : Executor := ⟨Toolbox.empty.registerAll replacedPing, 5⟩
    let call : ToolCall := ⟨"1", "ping", ""⟩
    let ping := ofScript { name := "ping", description := "Reply with PONG", content := "PONG" }
    FirstsOf ["ping", "echo"] ["ping", "echo", "ping"] ∧
    registered? replacedPing "ping" = some ping ∧ Passes call (.object []) ∧
    x.Executes call ping (.object []) ∧ ping.definition ∈ i.definitions ∧
    (x.dispatch call .empty).outcome = .ok { content := "PONG" } := by
  intro i x call ping
  have hlast : registered? replacedPing "ping" = some ping := rfl
  have hblank : Text.isBlankText "" = true := by decide
  have hpasses : Passes call (.object []) := .inl ⟨hblank, rfl⟩
  obtain ⟨-, ⟨hfirsts, -⟩, hfound, ⟨-, hdefinitions, -⟩, hbox⟩ := registered_in_step replacedPing
  obtain ⟨hexecutes, hdispatch, hdeclared⟩ := hbox 5
  have hping : x.Executes call ping (.object []) := (hexecutes ..).mpr ⟨hlast, hpasses⟩
  have htime : ∀ t, registered? replacedPing "ping" = some t →
      ¬Duration.ofSeconds 5 < t.delay (.object []) := by
    intro t ht
    obtain rfl := Option.some.inj (hlast.symm.trans ht)
    decide
  have hexecute : i.execute "ping" (.object []) .empty = (.empty, .ok { content := "PONG" }) := by
    rw [(hfound "ping").2, hlast]
    rfl
  have hnames : i.definitions.map ToolDefinition.name = ["ping", "echo"] := by decide
  refine ⟨hnames ▸ hfirsts, hlast, hpasses, hping, ?_, ?_⟩
  · rw [← hdefinitions]
    exact ((hdeclared ..).mp ⟨call, ping, .object [], rfl, hping, rfl⟩).1
  · exact congrArg Prod.snd ((hdispatch call _ .empty hpasses htime).trans hexecute)

end Colloquy.Tool
