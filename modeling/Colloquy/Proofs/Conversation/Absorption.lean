import Colloquy.Proofs.Conversation.Turn
import Colloquy.Proofs.Registry.Absorption

/-!
# Failures that a conversation does not notice

Failures that the policy of the active provider passes over leave no mark on a conversation: what
the user sees, what the provider gets to see and the files are the same as without them
(`takeAll_absorbs`).

A turn uses the registry in one place only, so two conversations that differ in their registries,
which are twins, go the same way (`Alike.speak`).
-/

namespace Colloquy.Conversation

open Provider (Backend Completion Failure)
open Registry (Active Traces Twins)

variable {a : Active} {answers : List Completion} {c c' : Conversation}

/-! ### Other registries -/

theorem opened_withRegistry (c : Conversation) (r : Registry) (text status : String) :
    (c.withRegistry r).opened text status = (c.opened text status).withRegistry r := rfl

theorem recover_withRegistry (c : Conversation) (r : Registry) :
    (c.withRegistry r).recover = c.recover.withRegistry r :=
  recover_mapAsking c ({ · with registry := r })

theorem settle_withRegistry (c : Conversation) (r : Registry)
    (answer : Except Registry.Error Completion) :
    (c.withRegistry r).settle answer = (c.settle answer).withRegistry r :=
  settle_mapAsking c ({ · with registry := r }) answer

/-! ### Turns -/

/-- What a user can do. -/
inductive Turn where
  | say (m : Manner) (text : String)
  | reset

/-- Takes a turn. -/
def take (c : Conversation) : Turn → Conversation
  | .say m text => c.speak m text
  | .reset => c.reset

/-- Takes turns in order. -/
def takeAll (c : Conversation) (turns : List Turn) : Conversation :=
  turns.foldl take c

/-- Two conversations that differ in nothing but traces of retries. -/
def Alike (a : Active) (c c' : Conversation) : Prop :=
  ∃ answers r', c' = c.withRegistry r' ∧ Twins a answers c.registry r'

/-- The registry has a part in a turn in one place only: when it is asked. -/
theorem ask_withRegistry (c : Conversation) (r : Registry) (text status : String) :
    (c.withRegistry r).ask text status =
      ((c.opened text status).settle ((c.opened text status).consult r).2).withRegistry
        ((c.opened text status).consult r).1 := by
  rw [ask_eq, opened_withRegistry]
  exact settle_withRegistry (c.opened text status) _ _

theorem Alike.ask (h : Alike a c c') (text status : String) :
    Alike a (c.ask text status) (c'.ask text status) := by
  obtain ⟨answers, r', rfl, htwins⟩ := h
  obtain ⟨hanswer, htwins'⟩ := Registry.complete_twins htwins
    (c.opened text status).history.messages (c.opened text status).executor.toolbox.definitions
  have hc : c.ask text status =
      ((c.opened text status).settle ((c.opened text status).consult c.registry).2).withRegistry
        ((c.opened text status).consult c.registry).1 :=
    ask_withRegistry c c.registry text status
  refine ⟨answers.tail, ((c.opened text status).consult r').1, ?_, ?_⟩
  · rw [hc, ask_withRegistry]
    exact congrArg (fun answer => ((c.opened text status).settle answer).withRegistry _) hanswer
  · rw [hc]
    exact htwins'

theorem Alike.take (h : Alike a c c') (turn : Turn) : Alike a (c.take turn) (c'.take turn) := by
  obtain ⟨answers, r', rfl, htwins⟩ := h
  cases turn with
  | say m text =>
    have hrecover : Alike a c.recover (c.withRegistry r').recover :=
      ⟨answers, r', recover_withRegistry c r', by
        unfold recover
        split_ifs <;> exact htwins⟩
    simp only [Conversation.take, speak_eq]
    exact hrecover.ask text _
  | reset => exact ⟨answers, r', rfl, htwins⟩

theorem Alike.takeAll (h : Alike a c c') (turns : List Turn) :
    Alike a (c.takeAll turns) (c'.takeAll turns) := by
  induction turns generalizing c c' with
  | nil => exact h
  | cons turn rest ih => exact ih (h.take turn)

/-! ### Scripts with failures -/

/-- The conversation when a backend is to follow another script. -/
def withScript (c : Conversation) (id : BackendId) (script : List (Except Failure Completion)) :
    Conversation :=
  c.withRegistry (c.registry.setBackend id { c.registry.backend id with script })

/-- Another script makes twins of a registry, if it is padded for the same answers. -/
theorem alike_withScript (hr : c.registry.Sound) (hactive : c.registry.active? = .ok a)
    (henabled : c.registry.retriesEnabled = true)
    {script : List (Except Failure Completion)} (hscript : Retry.Padded a.policy answers script) :
    Alike a (c.withScript a.backend (answers.map .ok)) (c.withScript a.backend script) := by
  have hthere := hr.lt_of_active? hactive
  let t (script : List (Except Failure Completion)) : Traces :=
    ⟨(c.registry.backend a.backend).calls, script, c.registry.statistics,
      c.registry.announcements, c.registry.waited⟩
  have ht : ∀ script, c.withScript a.backend script =
      c.withRegistry (c.registry.retrace a.backend (t script)) := fun _ => rfl
  rw [ht, ht]
  refine ⟨answers, _, rfl, ?_, henabled, ?_, ?_, t script, ?_, hscript⟩
  · exact (Registry.active?_retrace ..).trans hactive
  · exact (List.length_set ..).symm ▸ hthere
  · rw [show ((c.withRegistry (c.registry.retrace a.backend (t (answers.map .ok)))).registry.backend
      a.backend) = _ from Registry.backend_retrace hthere _]
    exact Retry.padded_map_ok a.policy answers
  · exact (Registry.retrace_retrace hthere _ _).symm

/-- **Failures that are passed over leave no mark.**  Let a provider be active whose backend follows
a script, with retries.  Whatever failures stand before the answers of the script, and behind the
last one: if the policy covers them all, and no more of them stand together than there are retries,
then after any turns the conversation is the same as with the answers alone.  Only how often the
backend was called, what is left of its script, the ledger, the retries that were announced and the
time that was waited differ. -/
theorem takeAll_absorbs (hr : c.registry.Reachable) (hactive : c.registry.active? = .ok a)
    (henabled : c.registry.retriesEnabled = true)
    {script : List (Except Failure Completion)} (hscript : Retry.Padded a.policy answers script)
    (turns : List Turn) :
    let plain := (c.withScript a.backend (answers.map .ok)).takeAll turns
    let padded := (c.withScript a.backend script).takeAll turns
    padded.state = plain.state ∧ padded.history = plain.history ∧
      padded.screen.chat = plain.screen.chat ∧ padded.screen.files = plain.screen.files ∧
      padded.screen.status = plain.screen.status ∧ padded.disk = plain.disk ∧
      ∃ t, padded = plain.withRegistry (plain.registry.retrace a.backend t) := by
  intro plain padded
  obtain ⟨_, r', hpadded, htwins⟩ :=
    (alike_withScript hr.sound hactive henabled hscript).takeAll turns
  obtain ⟨t, hr', _⟩ := htwins.retraced
  have heq : padded = plain.withRegistry (plain.registry.retrace a.backend t) := hr' ▸ hpadded
  rw [heq]
  exact ⟨rfl, rfl, rfl, rfl, rfl, rfl, t, rfl⟩

/-- A new conversation without tools, whose only provider is active. -/
def plainTalk : Conversation :=
  fresh (.after true .empty (fun _ => 0.5)
      [.addBackend (.named "mock"), .register "mock" (.shared 0), .activate "mock"])
    .empty ⟨.empty, 0⟩ "You are helpful." none {}

/-- Two failures before an answer and one behind it are not noticed over two turns. -/
theorem plainTalk_absorbs :
    plainTalk.registry.active? = .ok ⟨"mock", 0, (Backend.named "mock").retryPolicy⟩ ∧
      plainTalk.registry.retriesEnabled = true ∧
      ((plainTalk.withScript 0 [.error ⟨.rateLimit, "slow down"⟩, .error ⟨.serverError, "oops"⟩,
          .ok (.text "Hello!"), .error ⟨.networkError, "gone"⟩]).takeAll
            [.say .prompt "Hi", .say .feedback "Go on"]).history =
        ((plainTalk.withScript 0 [.ok (.text "Hello!")]).takeAll
            [.say .prompt "Hi", .say .feedback "Go on"]).history := by
  let p := (Backend.named "mock").retryPolicy
  have hactive : plainTalk.registry.active? = .ok ⟨"mock", 0, p⟩ := rfl
  have hbefore : Retry.Absorbable p [⟨.rateLimit, "slow down"⟩, ⟨.serverError, "oops"⟩] :=
    ⟨by decide, by simp [p, Retry.Policy.Covers]; decide⟩
  have hbehind : Retry.Absorbable p [⟨.networkError, "gone"⟩] :=
    ⟨by decide, by simp [p, Retry.Policy.Covers]; decide⟩
  have hscript : Retry.Padded p [.text "Hello!"] _ := .next hbefore (.last hbehind)
  exact ⟨hactive, rfl, (takeAll_absorbs ⟨_, _, _, _, rfl⟩ hactive rfl hscript _).2.1⟩

end Colloquy.Conversation
