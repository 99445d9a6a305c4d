import Colloquy.Conversation.Handshake
import Colloquy.Proofs.Conversation.Turn
import Mathlib.Data.List.TakeWhile
import Mathlib.Logic.Relation

/-!
# What is read at the end of a wait

While one command is on its way the two sides stand in one of few ways to each other, whatever the
order of their steps.  All that matters about the cell is whether the user's side still has news
coming: as long as the command is being carried out, the news can only be that it is; once the last
screen has been published, there are news, and they are this screen.

* `Stand.step`: a step leads from one way to stand to another;
* `Invariant.of_reachable`: this holds in every state that can be reached, and the notices that have
  been read are those after the first commands, one by one;
* `reads_of_reachable`: what follows for a wait and its end.
-/

namespace Colloquy

/-! ### Commands -/

/-- No command leaves the conversation waiting for an answer. -/
theorem Conversation.processing_obey {c : Conversation} (h : c.screen.processing = false)
    (x : Command) : (c.obey x).screen.processing = false := by
  have hask (c : Conversation) (text status : String) :
      (c.ask text status).screen.processing = false := rfl
  have hswitch {α : Type} (change : Registry × Except Registry.Error α) (success : α → String) :
      (c.switch change success).screen.processing = false := by
    rw [switch]
    split <;> exact h
  cases x with
  | submit text =>
    rw [obey, submit]
    split
    · rw [feedback]; split <;> exact hask ..
    · rw [taskFeedback]; split <;> exact hask ..
    · exact hask ..
  | prompt text => exact hask ..
  | reset => rfl
  | provider name => exact hswitch ..
  | model id => exact hswitch ..
  | template id => exact hswitch ..
  | quit => exact h

theorem Conversation.processing_obeyAll {c : Conversation} (h : c.screen.processing = false)
    (xs : List Command) : (c.obeyAll xs).screen.processing = false := by
  induction xs generalizing c with
  | nil => exact h
  | cons x xs ih => exact ih (processing_obey h x)

/-- What comes before the first command to quit does not change once there is one. -/
theorem Command.takeWhile_append_of_quit_mem {xs : List Command} (h : .quit ∈ xs)
    (ys : List Command) :
    (xs ++ ys).takeWhile (· != .quit) = xs.takeWhile (· != .quit) := by
  rw [List.takeWhile_append, if_neg]
  intro hlength
  have hall := (List.takeWhile_prefix _).eq_of_length hlength
  have hquit := List.mem_takeWhile_imp (hall.symm ▸ h)
  simp at hquit

theorem Command.takeWhile_eq_self {xs : List Command} (h : .quit ∉ xs) :
    xs.takeWhile (· != .quit) = xs :=
  List.takeWhile_eq_self_iff.mpr fun x hx => by
    have hne : x ≠ .quit := fun e => h (e ▸ hx)
    simpa using hne

/-- The first command to quit, put behind others. -/
theorem Command.takeWhile_append_quit {xs : List Command} (h : .quit ∉ xs) :
    (xs ++ [Command.quit]).takeWhile (· != .quit) = xs := by
  rw [List.takeWhile_append, takeWhile_eq_self h]
  simp

/-- A worker carries out what comes before the first command to quit. -/
theorem Worker.conversation_handleAll (w : Worker) (xs : List Command) :
    (w.handleAll xs).conversation = w.conversation.obeyAll (xs.takeWhile (· != .quit)) := by
  induction xs generalizing w with
  | nil => rfl
  | cons x xs ih => cases x <;> first | rfl | exact ih _

namespace Handshake

open Relation (ReflTransGen)

variable {c : Conversation} {s s' : System}

/-! ### How the two sides stand -/

/-- Whether the user's side is about to read a notice. -/
def System.News (s : System) : Prop :=
  s.phase = .reading ∨ s.phase = .waiting ∧ s.seen ≠ s.cell.version

/-- How far the command is that is waited for. -/
inductive Course (s : System) : Prop where
  /-- It is in the queue. -/
  | queued (x : Command) (hphase : s.phase = .waiting) (hstage : s.stage = .free)
      (hqueue : s.queue = [x]) (hsent : s.sent = s.obeyed ++ [x]) (hseen : s.seen = s.cell.version)
  /-- Nobody has been told that it has been taken. -/
  | taken (x : Command) (hphase : s.phase = .waiting) (hstage : s.stage = .taken x)
      (hqueue : s.queue = []) (hsent : s.sent = s.obeyed ++ [x]) (hseen : s.seen = s.cell.version)
  /-- It is being carried out. -/
  | busy (x : Command) (hphase : s.phase = .waiting ∨ s.phase = .reading)
      (hstage : s.stage = .busy x) (hqueue : s.queue = []) (hsent : s.sent = s.obeyed ++ [x])
      (hnews : s.News → s.cell.notice.screen.processing = true)
  /-- It has been carried out, but this has not been made known. -/
  | done (hphase : s.phase = .waiting ∨ s.phase = .reading) (hstage : s.stage = .done)
      (hqueue : s.queue = []) (hsent : s.sent = s.obeyed)
      (hnews : s.News → s.cell.notice.screen.processing = true)
  /-- This has been made known, but not been read. -/
  | known (hnews : s.News) (hstage : s.stage = .free) (hqueue : s.queue = [])
      (hsent : s.sent = s.obeyed) (hnotice : s.cell.notice = s.current)

/-- How the two sides stand to each other. -/
inductive Stand (s : System) : Prop where
  /-- All that was sent has been carried out, made known and read. -/
  | rest (hquit : .quit ∉ s.sent) (hphase : s.phase = .ready) (hstage : s.stage = .free)
      (hqueue : s.queue = []) (hsent : s.sent = s.obeyed) (hreads : s.reads.length = s.sent.length)
      (hseen : s.seen = s.cell.version) (hnotice : s.cell.notice = s.current)
  /-- The last command that was sent is waited for. -/
  | wait (hquit : .quit ∉ s.sent) (hreads : s.reads.length + 1 = s.sent.length) (hcourse : Course s)
  /-- Nothing more will be carried out. -/
  | quitting (hquit : .quit ∈ s.sent)
      (hphase : s.phase = .gone ∨ s.phase = .waiting ∧ s.seen = s.cell.version)
      (hstage : s.stage = .stopped ∨ s.stage = .free ∧ s.queue.head? = some .quit)
      (hobeyed : s.obeyed = s.sent.takeWhile (· != .quit))
  /-- Nothing more will be sent. -/
  | left (hquit : .quit ∉ s.sent) (hphase : s.phase = .gone)
      (hstage : s.stage = .stopped ∨ s.stage = .free) (hqueue : s.queue = [])
      (hsent : s.sent = s.obeyed)

/-! ### Steps -/

theorem read_of_processing (h : s.cell.notice.screen.processing = true) :
    s.read = { s with seen := s.cell.version, phase := .waiting } := by
  simp [System.read, h]

theorem read_of_not_processing (h : s.cell.notice.screen.processing = false) :
    s.read =
      { s with seen := s.cell.version, phase := .ready, reads := s.reads ++ [s.cell.notice] } := by
  simp [System.read, h]

/-- A step while a command is waited for.  The wait ends only by reading the screen after it. -/
theorem Course.step (h : Course s) (hquit : .quit ∉ s.sent) (hseen : s.seen ≤ s.cell.version)
    (hidle : s.conversation.screen.processing = false) (hstep : Step s s') :
    s'.sent = s.sent ∧ (s'.reads = s.reads ∧ Course s' ∨
      s.sent = s.obeyed ∧ s'.reads = s.reads ++ [s.current] ∧ s'.obeyed = s.obeyed ∧
        s'.phase = .ready ∧ s'.stage = .free ∧ s'.queue = [] ∧ s'.seen = s'.cell.version ∧
        s'.cell.notice = s'.current) := by
  cases h with
  | queued x hphase hstage hqueue hsent hseen =>
    cases hstep with
    | take y rest _ hqueue' _ =>
      obtain ⟨rfl, rfl⟩ := List.cons_eq_cons.mp (hqueue.symm.trans hqueue')
      exact ⟨rfl, .inl ⟨rfl, .taken x hphase rfl rfl hsent hseen⟩⟩
    | _ => simp_all
  | taken x hphase hstage hqueue hsent hseen =>
    cases hstep with
    | announce y hstage' =>
      obtain rfl := Stage.taken.inj (hstage.symm.trans hstage')
      refine ⟨rfl, .inl ⟨rfl, .busy x (.inl hphase) rfl hqueue hsent fun hnews => ?_⟩⟩
      -- Without the busy screen there would not be any news.
      unfold System.announce System.News at hnews
      unfold System.announce
      cases hturn : x.isTurn with
      | true => rfl
      | false => simp [hturn, hphase, hseen] at hnews
    | _ => simp_all
  | busy x hphase hstage hqueue hsent hnews =>
    cases hstep with
    | wake hwaiting hnew =>
      have hbusy := hnews (.inr ⟨hwaiting, hnew⟩)
      exact ⟨rfl, .inl ⟨rfl, .busy x (.inr rfl) hstage hqueue hsent fun _ => hbusy⟩⟩
    | read hreading =>
      have hbusy := hnews (.inl hreading)
      rw [read_of_processing hbusy]
      exact ⟨rfl, .inl ⟨rfl, .busy x (.inl rfl) hstage hqueue hsent fun _ => hbusy⟩⟩
    | carryOut y hstage' =>
      obtain rfl := Stage.busy.inj (hstage.symm.trans hstage')
      exact ⟨rfl, .inl ⟨rfl, .done hphase rfl hqueue hsent hnews⟩⟩
    | _ => simp_all
  | done hphase hstage hqueue hsent hnews =>
    cases hstep with
    | wake hwaiting hnew =>
      have hbusy := hnews (.inr ⟨hwaiting, hnew⟩)
      exact ⟨rfl, .inl ⟨rfl, .done (.inr rfl) hstage hqueue hsent fun _ => hbusy⟩⟩
    | read hreading =>
      have hbusy := hnews (.inl hreading)
      rw [read_of_processing hbusy]
      exact ⟨rfl, .inl ⟨rfl, .done (.inl rfl) hstage hqueue hsent fun _ => hbusy⟩⟩
    | publish _ =>
      -- The version is new to the user's side, even if the one before it has not been seen.
      have hnews' : s.publish.News :=
        hphase.symm.imp_right fun hwaiting => ⟨hwaiting, Nat.ne_of_lt (Nat.lt_succ_of_le hseen)⟩
      exact ⟨rfl, .inl ⟨rfl, .known hnews' rfl hqueue hsent rfl⟩⟩
    | _ => simp_all
  | known hnews hstage hqueue hsent hnotice =>
    cases hstep with
    | wake hwaiting hnew =>
      exact ⟨rfl, .inl ⟨rfl, .known (.inl rfl) hstage hqueue hsent hnotice⟩⟩
    | read hreading =>
      have hidle' : s.cell.notice.screen.processing = false := by rw [hnotice]; exact hidle
      rw [read_of_not_processing hidle', hnotice]
      exact ⟨rfl, .inr ⟨hsent, rfl, rfl, rfl, hstage, hqueue, rfl, rfl⟩⟩
    | pile x hquit' => exact absurd hquit' hquit
    | _ => simp_all [System.News]

/-- A step from one way to stand to another.  Reads come from ends of waits only. -/
theorem Stand.step (h : Stand s) (hseen : s.seen ≤ s.cell.version)
    (hidle : s.conversation.screen.processing = false) (hstep : Step s s') :
    Stand s' ∧ (s'.reads = s.reads ∨ s.reads.length + 1 = s.sent.length ∧ s.sent = s.obeyed ∧
      s'.sent = s.sent ∧ s'.reads = s.reads ++ [s.current]) := by
  cases h with
  -- Both sides are at rest: the next step is the front end's.
  | rest hquit hphase hstage hqueue hsent hreads hseen' hnotice =>
    cases hstep with
    | send x =>
      by_cases hx : x = .quit
      · -- Nobody will answer: the wait can only fail.
        subst hx
        refine ⟨.quitting ?_ (.inr ⟨rfl, hseen'⟩) (.inr ⟨hstage, ?_⟩) ?_, .inl rfl⟩
        · exact List.mem_append_right _ (List.mem_singleton_self _)
        · simp [System.enqueue, hqueue]
        · exact hsent.symm.trans (Command.takeWhile_append_quit hquit).symm
      · refine ⟨.wait ?_ ?_ (.queued x rfl hstage ?_ ?_ hseen'), .inl rfl⟩
        · simpa [System.enqueue, hquit] using Ne.symm hx
        · simp [System.enqueue, hreads]
        · simp [System.enqueue, hqueue]
        · simp [System.enqueue, hsent]
    | leave =>
      refine ⟨.quitting ?_ (.inl rfl) (.inr ⟨hstage, ?_⟩) ?_, .inl rfl⟩
      · exact List.mem_append_right _ (List.mem_singleton_self _)
      · simp [System.enqueue, hqueue]
      · exact hsent.symm.trans (Command.takeWhile_append_quit hquit).symm
    | hangUp => exact ⟨.left hquit rfl (.inr hstage) hqueue hsent, .inl rfl⟩
    | _ => simp_all
  -- The front end waits: either the course of the command goes on or its end is read.
  | wait hquit hreads hcourse =>
    obtain ⟨hsent', ⟨hreads', hcourse'⟩ |
      ⟨hsent, hreads', hobeyed', hphase', hstage', hqueue', hseen', hnotice'⟩⟩ :=
      hcourse.step hquit hseen hidle hstep
    · rw [← hsent'] at hquit hreads
      exact ⟨.wait hquit (hreads' ▸ hreads) hcourse', .inl hreads'⟩
    · refine ⟨.rest ?_ hphase' hstage' hqueue' ?_ ?_ hseen' hnotice',
        .inr ⟨hreads, hsent, hsent', hreads'⟩⟩
      · rwa [hsent']
      · rw [hsent', hsent, hobeyed']
      · rw [hsent', hreads', List.length_append, ← hreads]
        rfl
  -- What is sent after the command to quit is never obeyed.
  | quitting hquit hphase hstage hobeyed =>
    cases hstep with
    | pile x =>
      refine ⟨.quitting (List.mem_append_left _ hquit) hphase ?_ ?_, .inl rfl⟩
      · exact hstage.imp_right fun ⟨hfree, hqueue⟩ => ⟨hfree, by simp [System.enqueue, hqueue]⟩
      · exact hobeyed.trans (Command.takeWhile_append_of_quit_mem hquit [x]).symm
    | giveUp => exact ⟨.quitting hquit (.inl rfl) hstage hobeyed, .inl rfl⟩
    | quit rest => exact ⟨.quitting hquit hphase (.inl rfl) hobeyed, .inl rfl⟩
    | _ => simp_all
  | left hquit hphase hstage hqueue hsent =>
    cases hstep with
    | close => exact ⟨.left hquit hphase (.inl rfl) hqueue hsent, .inl rfl⟩
    | _ => simp_all

/-- Commands are not taken back. -/
theorem Step.sent_prefix (h : Step s s') : s.sent <+: s'.sent := by
  cases h with
  | send | leave | pile => exact List.prefix_append ..
  | _ => exact List.prefix_rfl

/-- The conversation goes by the commands that were carried out. -/
theorem Step.conversation (h : Step s s') (hs : s.conversation = c.obeyAll s.obeyed) :
    s'.conversation = c.obeyAll s'.obeyed := by
  cases h with
  | carryOut x =>
    change s.conversation.obey x = List.foldl _ _ (s.obeyed ++ [x])
    rw [List.foldl_append, hs]
    rfl
  | _ => exact hs

/-- Nothing is seen before it is published. -/
theorem Step.seen_le (h : Step s s') (hs : s.seen ≤ s.cell.version) :
    s'.seen ≤ s'.cell.version := by
  cases h with
  | wake | read => exact Nat.le_refl _
  | announce x =>
    unfold System.announce
    split
    · exact Nat.le_succ_of_le hs
    · exact hs
  | publish => exact Nat.le_succ_of_le hs
  | _ => exact hs

/-! ### Reachable states -/

/-- What is made known after some commands. -/
def noticeAfter (c : Conversation) (xs : List Command) : Notice :=
  ⟨(c.obeyAll xs).screen, xs.length⟩

/-- What holds in all states that can be reached from a conversation. -/
structure Invariant (c : Conversation) (s : System) : Prop where
  stand : Stand s
  conversation : s.conversation = c.obeyAll s.obeyed
  seen : s.seen ≤ s.cell.version
  reads : ∀ k n, s.reads[k]? = some n →
    k < s.sent.length ∧ n = noticeAfter c (s.sent.take (k + 1))

theorem Invariant.start (c : Conversation) : Invariant c (.start c) where
  stand := .rest List.not_mem_nil rfl rfl rfl rfl rfl rfl rfl
  conversation := rfl
  seen := Nat.le_refl _
  reads := nofun

theorem Invariant.current (h : Invariant c s) : s.current = noticeAfter c s.obeyed := by
  rw [System.current, noticeAfter, h.conversation]

theorem Invariant.step (h : Invariant c s) (hidle : c.screen.processing = false)
    (hstep : Step s s') : Invariant c s' := by
  have hidle' : s.conversation.screen.processing = false :=
    h.conversation ▸ c.processing_obeyAll hidle s.obeyed
  obtain ⟨hstand, hreads⟩ := h.stand.step h.seen hidle' hstep
  refine ⟨hstand, hstep.conversation h.conversation, hstep.seen_le h.seen, fun k n hn => ?_⟩
  obtain ⟨more, hsent⟩ := hstep.sent_prefix
  -- What was read before goes by the commands that had been sent by then.
  have hold (hn : s.reads[k]? = some n) :
      k < s'.sent.length ∧ n = noticeAfter c (s'.sent.take (k + 1)) := by
    obtain ⟨hk, heq⟩ := h.reads k n hn
    rw [← hsent, List.take_append_of_le_length hk, List.length_append]
    exact ⟨Nat.lt_add_right _ hk, heq⟩
  rcases hreads with hreads | ⟨hlength, hobeyed, hsent', hreads⟩
  · exact hold (hreads ▸ hn)
  · rw [hreads] at hn
    rcases Nat.lt_or_ge k s.reads.length with hk | hk
    · rw [List.getElem?_append_left hk] at hn
      exact hold hn
    · -- This is what has been read last, after all commands that have been sent.
      have hlast : k = s.reads.length ∧ s.current = n := by
        rw [List.getElem?_append_right hk, List.getElem?_singleton] at hn
        split at hn
        · next hzero => exact ⟨by omega, Option.some.inj hn⟩
        · cases hn
      obtain ⟨rfl, rfl⟩ := hlast
      refine ⟨by rw [hsent']; omega, ?_⟩
      rw [hsent', hlength, List.take_length, h.current, hobeyed]

theorem Invariant.of_reachable (hidle : c.screen.processing = false)
    (h : ReflTransGen Step (.start c) s) : Invariant c s := by
  induction h with
  | refl => exact .start c
  | tail _ hstep ih => exact ih.step hidle hstep

/-! ### Waits come to an end -/

/-- How much the owner has still to do for a command that it has taken. -/
def Stage.left : Stage → Nat
  | .free => 0
  | .taken _ => 3
  | .busy _ => 2
  | .done => 1
  | .stopped => 0

/-- How much the user's side has to do to read the news, if there are any. -/
def System.unread (s : System) : Nat :=
  if s.phase = .reading then 1 else if s.seen = s.cell.version then 0 else 2

/-- A bound on the steps before a wait ends. -/
def System.work (s : System) : Nat :=
  3 * (4 * s.queue.length + s.stage.left) + s.unread

theorem unread_le (s : System) : s.unread ≤ 2 := by
  unfold System.unread
  split <;> [skip; split] <;> omega

/-- Reading leaves no news. -/
theorem unread_read (s : System) : s.read.unread = 0 := by
  have hphase : s.read.phase ≠ .reading := by
    unfold System.read
    dsimp only
    split <;> nofun
  rw [System.unread, if_neg hphase]
  exact if_pos rfl

/-- Whatever is done during a wait brings its end closer. -/
theorem Step.work_lt (h : Step s s') (hphase : s.phase = .waiting ∨ s.phase = .reading)
    (hquit : .quit ∉ s.sent) (hstage : s.stage ≠ .stopped) : s'.work < s.work := by
  cases h with
  -- These two come after a quit or an end, of which there has been none.
  | pile x hquit' => exact absurd hquit' hquit
  | giveUp _ _ hstage' => exact absurd hstage' hstage
  -- Reading takes away what is unread.
  | wake hwaiting hnew => simp [System.work, System.unread, hwaiting, hnew]
  | read hreading =>
    have hunread : s.unread = 1 := if_pos hreading
    rw [System.work, System.work, unread_read, hunread]
    exact Nat.lt_succ_self _
  | take x rest hstage' hqueue | quit rest hstage' hqueue =>
    simp only [System.work, System.unread, hstage', hqueue, Stage.left, List.length_cons]
    omega
  -- Going on takes three off the work, and a publication leaves two at most to be read.
  | announce x hstage' =>
    have hunread := unread_le (s.announce x)
    have hleft : (s.announce x).stage.left + 1 = s.stage.left := by rw [hstage']; rfl
    have hqueue : (s.announce x).queue = s.queue := rfl
    rw [System.work, System.work, hqueue]
    omega
  | carryOut x hstage' =>
    have hunread : (s.carryOut x).unread = s.unread := rfl
    have hleft : (s.carryOut x).stage.left + 1 = s.stage.left := by rw [hstage']; rfl
    have hqueue : (s.carryOut x).queue = s.queue := rfl
    rw [System.work, System.work, hqueue]
    omega
  | publish hstage' =>
    have hunread := unread_le s.publish
    have hleft : s.publish.stage.left + 1 = s.stage.left := by rw [hstage']; rfl
    have hqueue : s.publish.queue = s.queue := rfl
    rw [System.work, System.work, hqueue]
    omega
  | _ => simp_all

/-- While a command is waited for, something can be done. -/
theorem Course.exists_step (h : Course s) (hquit : .quit ∉ s.sent) : ∃ s', Step s s' := by
  cases h with
  | queued x hphase hstage hqueue hsent =>
    have hx : x ≠ .quit := by
      rintro rfl
      exact hquit (hsent ▸ List.mem_append_right _ (List.mem_singleton_self _))
    exact ⟨_, .take x [] hstage hqueue hx⟩
  | taken x _ hstage => exact ⟨_, .announce x hstage⟩
  | busy x _ hstage => exact ⟨_, .carryOut x hstage⟩
  | done _ hstage => exact ⟨_, .publish hstage⟩
  | known hnews =>
    rcases hnews with hreading | ⟨hwaiting, hnew⟩
    · exact ⟨_, .read hreading⟩
    · exact ⟨_, .wake hwaiting hnew⟩

theorem Course.phase (h : Course s) : s.phase = .waiting ∨ s.phase = .reading := by
  cases h with
  | known hnews => exact hnews.symm.imp_left And.left
  | queued x hphase | taken x hphase => exact .inl hphase
  | busy x hphase | done hphase => exact hphase

theorem Course.stage (h : Course s) : s.stage ≠ .stopped := by
  cases h <;> simp_all

/-- Nothing is carried out from the first command to quit on. -/
theorem Stand.obeyed_prefix (h : Stand s) : s.obeyed <+: s.sent.takeWhile (· != .quit) := by
  cases h with
  | rest hquit _ _ _ hsent | left hquit _ _ _ hsent =>
    exact (hsent.symm.trans (Command.takeWhile_eq_self hquit).symm) ▸ List.prefix_rfl
  | wait hquit _ hcourse =>
    rw [Command.takeWhile_eq_self hquit]
    cases hcourse with
    | queued x _ _ _ hsent | taken x _ _ _ hsent | busy x _ _ _ hsent =>
      exact hsent ▸ List.prefix_append ..
    | done _ _ _ hsent | known _ _ _ hsent => exact hsent ▸ List.prefix_rfl
  | quitting _ _ _ hobeyed => exact hobeyed ▸ List.prefix_rfl

/-- **What is read at the end of a wait.**  Let a conversation that waits for no answer be led by
commands that are sent one at a time, with a wait after each, and consider any state that the two
sides can reach.

* What the wait for a command has read in the end is the notice that was published when this command
  and all before it had been carried out.  It does not say that an answer is waited for.
* When the next command can be sent, the last wait has read the last notice, there will not be
  another one before the next command is taken, and none is left that has not been seen.
* What has been carried out are the first commands, one after the other, and nothing from the first
  command to quit on.  Once the owner has stopped for it, all before it has been carried out, as by
  a worker that finds the commands in its queue.
* A wait for any other command comes to its end: something can be done, and each step leaves less to
  do. -/
theorem reads_of_reachable (hidle : c.screen.processing = false)
    (h : ReflTransGen Step (.start c) s) :
    (∀ k n, s.reads[k]? = some n → k < s.sent.length ∧
      n = ⟨(c.obeyAll (s.sent.take (k + 1))).screen, k + 1⟩ ∧ n.screen.processing = false) ∧
    (s.phase = .ready → s.reads.length = s.sent.length ∧ s.seen = s.cell.version ∧
      s.cell.notice = ⟨(c.obeyAll s.sent).screen, s.sent.length⟩ ∧
      s.stage = .free ∧ s.queue = []) ∧
    (s.obeyed <+: s.sent.takeWhile (· != .quit) ∧ s.conversation = c.obeyAll s.obeyed ∧
      (s.stage = .stopped → .quit ∈ s.sent → s.conversation =
        ({ conversation := c, queue := s.sent } : Worker).work.conversation)) ∧
    (.quit ∉ s.sent → s.phase = .waiting ∨ s.phase = .reading →
      (∃ s', Step s s') ∧ ∀ s', Step s s' → s'.work < s.work) := by
  have hs := Invariant.of_reachable hidle h
  refine ⟨fun k n hn => ?_, fun hready => ?_,
    ⟨hs.stand.obeyed_prefix, hs.conversation, fun hstopped hquit => ?_⟩, fun hquit hphase => ?_⟩
  · obtain ⟨hk, rfl⟩ := hs.reads k n hn
    refine ⟨hk, ?_, c.processing_obeyAll hidle _⟩
    rw [noticeAfter, List.length_take, Nat.min_eq_left hk]
  · -- The user's side is ready only at rest.
    cases hs.stand with
    | rest hquit hphase hstage hqueue hsent hreads hseen hnotice =>
      exact ⟨hreads, hseen, by rw [hnotice, hs.current, ← hsent, noticeAfter], hstage, hqueue⟩
    | wait hquit hreads hcourse =>
      have := hcourse.phase
      simp_all
    | _ => simp_all
  · -- The conversation has stopped with a quit on record only after it was asked to.
    cases hs.stand with
    | quitting _ _ _ hobeyed =>
      rw [hs.conversation, hobeyed, Worker.work, Worker.conversation_handleAll]
    | _ => contradiction
  · -- Without a quit a wait is for the last command, whose course goes on.
    cases hs.stand with
    | wait _ _ hcourse =>
      exact ⟨hcourse.exists_step hquit, fun s' hstep =>
        hstep.work_lt hphase hquit hcourse.stage⟩
    | _ => simp_all

/-- A conversation in which nothing has been said. -/
def silent : Conversation :=
  .fresh {} .empty ⟨.empty, 5⟩ "" none {}

/-- A wait that is told of the screen before a turn, but reads the one after it. -/
theorem reads_of_reachable_turn :
    ∃ s, silent.screen.processing = false ∧ ReflTransGen Step (.start silent) s ∧
      s.phase = .ready ∧ s.cell.notice = ⟨(silent.obeyAll s.sent).screen, 1⟩ := by
  have hsent := ReflTransGen.single (Step.send (s := .start silent) (.submit "hello") rfl nofun)
  have htaken := hsent.tail (.take _ [] rfl rfl nofun)
  have hbusy := htaken.tail (.announce _ rfl)
  have htold := hbusy.tail (.wake rfl Nat.zero_ne_one)
  have hdone := htold.tail (.carryOut _ rfl)
  have hknown := hdone.tail (.publish rfl)
  have hread := hknown.tail (.read rfl)
  exact ⟨_, rfl, hread, rfl, ((reads_of_reachable rfl hread).2.1 rfl).2.2.1⟩

end Handshake
end Colloquy
