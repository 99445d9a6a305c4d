import Colloquy.Proofs.Retry.Run
import Colloquy.Registry.Request
import Mathlib.Algebra.GroupWithZero.Nat
import Mathlib.Data.List.Induction

/-!
# The ledger of a run

The ledger is written by requests, each of which is a run of the retry loop, and by whoever enters
the end of a request by hand; and it is torn up now and then.  A `Posting` is one of these.

* `Balanced.post`: a posting keeps the ledger in balance with what has been posted since it was torn
  up the last time;
* `postAll_balanced`: what the figures of the ledger are after any postings, and when they do not
  change;
* `Registry.statistics_complete`, `Registry.statistics_embed`: what a registry posts for a request.
-/

namespace Colloquy.Retry

open Provider (Failure)

variable {σ α : Type}

/-! ### Postings -/

/-- What can be done to a ledger. -/
inductive Posting : Type 1 where
  /-- A request is made, for a completion or for anything else: a call with retries by a policy,
  unless retries are switched off. -/
  | request {σ α : Type} (enabled : Bool) (p : Policy) (draw : Nat → Float)
      (call : σ → Except Failure α × σ) (start : σ)
  /-- The end of a request is entered by hand. -/
  | record (reason : String) (success : Bool) (retries : Nat)
  | reset

namespace Posting

/-- Whether the ledger is torn up. -/
def isReset : Posting → Bool
  | reset => true
  | _ => false

/-- Whether a request is made. -/
def isRequest : Posting → Bool
  | request .. => true
  | _ => false

/-- How many retries a posting stands for. -/
def retries : Posting → Nat
  | request enabled p draw call start =>
    (execute (p.effective enabled) draw call start).retries
  | record _ _ retries => retries
  | reset => 0

/-- How often a request makes its call: once for each state that is left on the way. -/
def calls : Posting → Nat
  | request enabled p draw call start => (visited (p.effective enabled) draw call start).length
  | _ => 0

/-- Whether a request may make its call but once: retries are switched off, or the policy allows
none. -/
def IsSingle : Posting → Prop
  | request enabled p .. => enabled = false ∨ p.maxRetries = 0
  | _ => False

/-- The postings since the ledger was torn up the last time. -/
def sinceReset (postings : List Posting) : List Posting :=
  (postings.reverse.takeWhile (!·.isReset)).reverse

end Posting

/-- The ledger after a posting. -/
def Statistics.post (s : Statistics) : Posting → Statistics
  | .request enabled p draw call start =>
    s.recordRun (execute (p.effective enabled) draw call start)
  | .record reason success retries => s.record reason success retries
  | .reset => .empty

/-- The ledger after some postings. -/
def Statistics.postAll (s : Statistics) (postings : List Posting) : Statistics :=
  postings.foldl post s

/-- How many requests the ledger counts under all reasons together. -/
def Statistics.counted (s : Statistics) : Nat :=
  (s.reasons.entries.map Prod.snd).sum

theorem Posting.sinceReset_append (postings : List Posting) (x : Posting) :
    sinceReset (postings ++ [x]) = if x.isReset then [] else sinceReset postings ++ [x] := by
  rw [sinceReset, List.reverse_append, List.reverse_singleton, List.singleton_append,
    List.takeWhile_cons]
  cases x.isReset <;> simp [sinceReset]

/-- A posting that does not tear up the ledger is an entry with its retries. -/
theorem Statistics.post_eq_record (s : Statistics) {x : Posting} (hx : x.isReset = false) :
    ∃ reason success, s.post x = s.record reason success x.retries := by
  cases x with
  | request enabled p draw call start => exact ⟨_, _, rfl⟩
  | record reason success retries => exact ⟨_, _, rfl⟩
  | reset => cases hx

/-- A request makes its call once more than it makes retries. -/
theorem Posting.calls_of_isRequest {x : Posting} (hx : x.isRequest = true) :
    x.calls = x.retries + 1 := by
  cases x with
  | request enabled p draw call start => exact (visited_spec _ draw call start).1
  | record => cases hx
  | reset => cases hx

/-! ### The balance -/

/-- The sum of all values after one of them was set. -/
theorem sum_insertEntry (key : String) (value : Nat) {l : List (String × Nat)}
    (hl : l.Pairwise fun a b => a.1 < b.1) :
    ((insertEntry key value l).map Prod.snd).sum + (findValue? key l).getD 0 =
      (l.map Prod.snd).sum + value := by
  induction l with
  | nil => simp [insertEntry, findValue?]
  | cons x rest ih =>
    obtain ⟨hx, hrest⟩ := List.pairwise_cons.mp hl
    have ih := ih hrest
    rw [insertEntry]
    split
    · next hlt =>
      -- The key is below all others, so there was no value under it.
      have hnone : findValue? key (x :: rest) = none := by
        rw [findValue?, Option.map_eq_none_iff, List.find?_eq_none]
        intro y hy hkey
        have hlt' : key < y.1 := by
          rcases List.mem_cons.mp hy with rfl | hy
          · exact hlt
          · exact String.lt_trans hlt (hx y hy)
        exact String.lt_irrefl key (eq_of_beq hkey ▸ hlt')
      rw [hnone]
      simp [Nat.add_comm]
    · split
      · next hlt =>
        have hne : (x.1 == key) = false :=
          beq_false_of_ne fun h => String.lt_irrefl key (h ▸ hlt)
        simp only [findValue?, List.find?_cons, hne, List.map_cons, List.sum_cons] at ih ⊢
        omega
      · next h₁ h₂ =>
        have hkey : x.1 = key := String.le_antisymm (String.not_lt.mp h₁) (String.not_lt.mp h₂)
        simp only [findValue?, List.find?_cons, hkey, beq_self_eq_true, List.map_cons,
          List.sum_cons, Option.map_some, Option.getD_some]
        omega

/-- An entry with retries is counted under one reason, once. -/
theorem Statistics.counted_record (s : Statistics) (reason : String) (success : Bool)
    {retries : Nat} (h : retries ≠ 0) :
    (s.record reason success retries).counted = s.counted + 1 := by
  have hsum := sum_insertEntry reason ((s.reasons.find? reason).getD 0 + 1) s.reasons.ascending
  have hfind : findValue? reason s.reasons.entries = s.reasons.find? reason := rfl
  rw [hfind] at hsum
  rw [counted, record, if_neg h]
  change ((insertEntry _ _ _).map Prod.snd).sum = _
  rw [counted]
  omega

/-- A ledger that agrees with some postings. -/
structure Balanced (s : Statistics) (postings : List Posting) : Prop where
  ended : s.requests = s.succeeded + s.failed
  counted : s.requests = s.counted
  requests : s.requests = postings.countP (0 < ·.retries)
  retries : s.retries = (postings.map Posting.retries).sum
  requests_le : s.requests ≤ s.retries
  pos : ∀ reason n, s.reasons.find? reason = some n → 0 < n

theorem balanced_empty : Balanced .empty [] :=
  ⟨rfl, rfl, rfl, rfl, le_rfl, fun _ _ h => by cases h⟩

variable {s : Statistics} {postings : List Posting}

/-- **One posting** keeps the ledger in balance. -/
theorem Balanced.post (h : Balanced s postings) {x : Posting} (hx : x.isReset = false) :
    Balanced (s.post x) (postings ++ [x]) := by
  obtain ⟨reason, success, hpost⟩ := s.post_eq_record hx
  rw [hpost]
  by_cases hzero : x.retries = 0
  · -- Without retries there is no trace, neither in the ledger nor in the figures.
    rw [hzero, Statistics.record_zero]
    refine ⟨h.ended, h.counted, ?_, ?_, h.requests_le, h.pos⟩
    · rw [List.countP_append, ← h.requests]
      simp [hzero]
    · rw [List.map_append, List.sum_append, ← h.retries]
      simp [hzero]
  · -- With retries all the figures move together.
    have hcounted := s.counted_record reason success hzero
    have hended := h.ended
    have hle := h.requests_le
    have hrequests : (s.record reason success x.retries).requests = s.requests + 1 := by
      rw [Statistics.record, if_neg hzero]
    have hretries : (s.record reason success x.retries).retries = s.retries + x.retries := by
      rw [Statistics.record, if_neg hzero]
    refine ⟨?_, ?_, ?_, ?_, ?_, ?_⟩
    · rw [hrequests, Statistics.record, if_neg hzero]
      cases success <;> simp <;> omega
    · rw [hrequests, hcounted, h.counted]
    · rw [hrequests, List.countP_append, ← h.requests]
      simp [Nat.pos_of_ne_zero hzero]
    · rw [hretries, List.map_append, List.sum_append, ← h.retries]
      simp
    · rw [hrequests, hretries]
      omega
    · intro other n hn
      rw [Statistics.record, if_neg hzero] at hn
      dsimp only at hn
      rw [Dictionary.find?_insert] at hn
      split at hn
      · rw [← Option.some.inj hn]
        exact Nat.succ_pos _
      · exact h.pos other n hn

/-- After any postings the ledger is in balance with those since it was torn up the last time. -/
theorem balanced_postAll (postings : List Posting) :
    Balanced (Statistics.empty.postAll postings) (Posting.sinceReset postings) := by
  induction postings using List.reverseRecOn with
  | nil => exact balanced_empty
  | append_singleton postings x ih =>
    rw [Statistics.postAll, List.foldl_append, List.foldl_cons, List.foldl_nil,
      Posting.sinceReset_append]
    cases hx : x.isReset with
    | true =>
      cases x with
      | reset => exact balanced_empty
      | _ => cases hx
    | false => exact ih.post hx

/-! ### Requests without retries -/

/-- Where no retry is allowed none is made. -/
theorem retries_of_maxRetries_eq_zero {p : Policy} (hp : p.maxRetries = 0) (draw : Nat → Float)
    (call : σ → Except Failure α × σ) (s : σ) : (execute p draw call s).retries = 0 := by
  have hzero : p.maxRetries.toNat = 0 := by rw [hp]; rfl
  have hset : p.Settles (call s).1 0 := hzero ▸ p.settles_maxRetries (call s).1
  rw [execute, loop_of_settles p draw call hset]
  rfl

theorem Posting.IsSingle.post {x : Posting} (hx : x.IsSingle) (s : Statistics) :
    s.post x = s := by
  cases x with
  | request enabled p draw call start =>
    have hmax : (p.effective enabled).maxRetries = 0 := by
      rcases hx with rfl | hp
      · rfl
      · cases enabled with
        | false => rfl
        | true => exact hp
    rw [Statistics.post, Statistics.recordRun, retries_of_maxRetries_eq_zero hmax,
      Statistics.record_zero]
  | record => exact hx.elim
  | reset => exact hx.elim

/-- The calls of some requests are one for each, and one for each of their retries. -/
theorem sum_calls {xs : List Posting} (hxs : ∀ x ∈ xs, x.isRequest = true) :
    (xs.map Posting.calls).sum = xs.length + (xs.map Posting.retries).sum := by
  induction xs with
  | nil => rfl
  | cons x xs ih =>
    rw [List.map_cons, List.sum_cons, ih fun y hy => hxs y (List.mem_cons_of_mem _ hy),
      Posting.calls_of_isRequest (hxs x (List.mem_cons_self ..)), List.map_cons, List.sum_cons,
      List.length_cons]
    omega

/-- **The balance of the ledger** after any postings, with what has been posted since it was torn
up the last time.

* The requests in it have succeeded or failed, and each of them is counted under one reason; they
  are the requests, made or entered by hand, with at least one retry.
* The retries in it are those of the postings together, so there are no fewer of them than requests;
  and no reason is listed that did not come up.
* The requests that were made have taken one call each, and one more for each of their retries.

Requests that may make their call but once never change a ledger. -/
theorem postAll_balanced (postings : List Posting) :
    let s := Statistics.empty.postAll postings
    let posted := Posting.sinceReset postings
    let requests := posted.filter Posting.isRequest
    s.requests = s.succeeded + s.failed ∧ s.requests = s.counted ∧
    s.requests = posted.countP (0 < ·.retries) ∧
    s.retries = (posted.map Posting.retries).sum ∧ s.requests ≤ s.retries ∧
    (∀ reason n, s.reasons.find? reason = some n → 1 ≤ n) ∧
    (requests.map Posting.calls).sum = requests.length + (requests.map Posting.retries).sum ∧
    ∀ (t : Statistics) (singles : List Posting), (∀ x ∈ singles, x.IsSingle) →
      t.postAll singles = t := by
  intro s posted requests
  have h : Balanced s posted := balanced_postAll postings
  refine ⟨h.ended, h.counted, h.requests, h.retries, h.requests_le, h.pos, ?_, ?_⟩
  · exact sum_calls fun x hx => (List.mem_filter.mp hx).2
  · intro t singles hsingles
    induction singles with
    | nil => rfl
    | cons x rest ih =>
      rw [Statistics.postAll, List.foldl_cons, (hsingles x (List.mem_cons_self ..)).post]
      exact ih fun y hy => hsingles y (List.mem_cons_of_mem _ hy)

end Colloquy.Retry

/-! ### Requests to a registry -/

namespace Colloquy.Registry

open Provider (Backend ToolDefinition)
open Retry (Posting)

/-- A request to the active provider is one posting; without an active provider there is none. -/
def posting {α : Type} (r : Registry) (call : Backend → Except Provider.Failure α × Backend) :
    List Posting :=
  r.active?.toOption.toList.map fun a =>
    .request r.retriesEnabled a.policy r.draws call (r.backend a.backend)

/-- A completion is posted as a request. -/
theorem statistics_complete (r : Registry) (messages : List Message)
    (tools : List ToolDefinition) :
    (r.complete messages tools).1.statistics =
      r.statistics.postAll (r.posting (Backend.complete messages tools)) := by
  rw [complete, posting]
  cases r.active? with
  | error e => rfl
  | ok a =>
    dsimp only
    split <;> next h => rw [← congrArg Prod.fst h]; rfl

/-- An embedding is posted as a request. -/
theorem statistics_embed (r : Registry) (text : String) :
    (r.embed text).1.statistics = r.statistics.postAll (r.posting (Backend.embed text)) := by
  rw [embed, posting]
  cases r.active? with
  | error e => rfl
  | ok a =>
    dsimp only
    split <;> next h => rw [← congrArg Prod.fst h]; rfl

end Colloquy.Registry
