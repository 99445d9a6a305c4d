import Colloquy.Proofs.Conversation.Reset
import Colloquy.Repl.Dialogue

/-!
# The transcript of a dialogue

What a line asks for is a request, and a dialogue answers the requests of its lines up to the first
one to quit.  The commands among them make up the conversation; what the user gets to see is told
from the conversation that they lead to, by two views of the output: its entries and its lines of
status.

* `run_of_texts`: a run is the answers to the requests of its lines;
* `exists_chat_obey`: a command only adds to the chat log, so what is shown of the log is never
  out of date;
* `answerAll_entries`, `answerAll_status`: which entries and which lines of status are shown, and
  where;
* `run_transcript`: all of this for a whole run from its settings.
-/

namespace Colloquy.Repl

open Display (ChatEntry State)

variable {c : Conversation} {d : Dialogue}

/-! ### Requests -/

/-- The text of a line, without its end. -/
def textOf (line : List UInt8) : Except Text.Utf8Fault String :=
  Text.decodeUtf8 (Text.withoutLineEnd lineFeed carriageReturn line)

/-- Whether some bytes are texts in lines. -/
def ReadAs (bytes : List UInt8) (lines : List String) : Prop :=
  (Text.cutAfter lineFeed bytes).map textOf = lines.map .ok

/-- The requests of some lines, up to the first one to quit. -/
def requests (lines : List String) : List Request :=
  (lines.filterMap Request.read?).takeWhile (· != .quit)

/-- The command that a request is, if it is one. -/
def Request.command? : Request → Option Command
  | .command x => some x
  | _ => none

/-- The commands of some lines. -/
def commands (lines : List String) : List Command :=
  (requests lines).filterMap Request.command?

/-- A line without anything but blanks asks for nothing. -/
theorem read?_eq_none_iff (line : String) : Request.read? line = none ↔ Text.trim line = "" := by
  rw [← String.toList_eq_nil_iff, Request.read?]
  split <;> simp_all

/-- A line that does not start with a slash is for the conversation, without the blanks around
it. -/
theorem read?_of_head {line : String} (hne : Text.trim line ≠ "")
    (hslash : (Text.trim line).toList.head? ≠ some '/') :
    Request.read? line = some (.command (.submit (Text.trim line))) := by
  rw [Ne, ← String.toList_eq_nil_iff] at hne
  rw [Request.read?]
  split <;> simp_all

/-! ### Answers to requests -/

/-- Answers requests one after the other. -/
def Dialogue.answerAll (d : Dialogue) : List Request → Dialogue × List Output
  | [] => (d, [])
  | q :: rest =>
    let (d', output) := d.answer q
    let (d', output') := d'.answerAll rest
    (d', output ++ output')

theorem requests_cons (line : String) (lines : List String) :
    requests (line :: lines) = match Request.read? line with
      | none => requests lines
      | some .quit => []
      | some q => q :: requests lines := by
  rw [requests, requests, List.filterMap_cons]
  cases Request.read? line with
  | none => rfl
  | some q => cases q <;> rfl

/-- What comes of a line depends on its request, if it makes one. -/
theorem step_of_text {piece : List UInt8} {line : String} (h : textOf piece = .ok line) :
    d.step piece = match Request.read? line with
      | none => ⟨d, [], .goesOn⟩
      | some .quit => ⟨d, [], .finished⟩
      | some q => ⟨(d.answer q).1, (d.answer q).2, .goesOn⟩ := by
  unfold textOf at h
  cases hread : Request.read? line with
  | none => simp [Dialogue.step, h, hread]
  | some q => cases q <;> simp [Dialogue.step, h, hread]

/-- A run answers the requests of its lines. -/
theorem run_of_texts {pieces : List (List UInt8)} {lines : List String}
    (h : pieces.map textOf = lines.map .ok) :
    d.run pieces =
      ⟨(d.answerAll (requests lines)).1, (d.answerAll (requests lines)).2, .finished⟩ := by
  induction lines generalizing d pieces with
  | nil =>
    obtain rfl := List.map_eq_nil_iff.mp h
    rfl
  | cons line lines ih =>
    cases pieces with
    | nil => cases h
    | cons piece pieces =>
      obtain ⟨hpiece, hpieces⟩ := List.cons_eq_cons.mp h
      rw [Dialogue.run, step_of_text hpiece, requests_cons]
      cases Request.read? line with
      | none => exact congrArg (fun s : Step => { s with output := [] ++ s.output }) (ih hpieces)
      | some q =>
        cases q with
        | quit => rfl
        | _ =>
          dsimp only
          rw [ih hpieces]
          rfl

/-- The conversation is led by the commands among the requests. -/
theorem answerAll_conversation (d : Dialogue) (qs : List Request) :
    (d.answerAll qs).1.conversation =
      d.conversation.obeyAll (qs.filterMap Request.command?) := by
  induction qs generalizing d with
  | nil => rfl
  | cons q rest ih =>
    rw [Dialogue.answerAll]
    cases q <;> exact ih _

/-! ### What is shown of the chat log -/

/-- The entries of the chat log that do not come from the user. -/
def log (c : Conversation) : List ChatEntry :=
  c.screen.chat.filter (·.sender != .user)

/-- The entry of the chat log that an output is, if it is one. -/
def Output.entry? : Output → Option ChatEntry
  | .entry e => some e
  | _ => none

/-- The state and the line of status that an output is, if it is one. -/
def Output.status? : Output → Option (State × String)
  | .status state text => some (state, text)
  | _ => none

theorem filterMap_entry? (es : List ChatEntry) :
    (es.map Output.entry).filterMap Output.entry? = es := by
  rw [List.filterMap_map]
  exact List.filterMap_some

theorem filterMap_status? (es : List ChatEntry) :
    (es.map Output.entry).filterMap Output.status? = [] := by
  rw [List.filterMap_map]
  exact List.filterMap_eq_nil_iff.mpr fun _ _ => rfl

/-- A command only adds to the chat log. -/
theorem exists_chat_obey (c : Conversation) (x : Command) :
    ∃ new, (c.obey x).screen.chat = c.screen.chat ++ new := by
  -- What comes before the command is a past that the command does not look at.
  let bare : Conversation := { c with screen := { c.screen with chat := [] } }
  have hbare : bare.withPast ⟨c.screen.chat, c.screen.files, c.audits, c.worked⟩ = c := by
    simp only [bare, Conversation.withPast, List.append_nil]
  obtain ⟨updates, audits, worked, h⟩ := Conversation.oblivious_obey bare x
  have hobey := h ⟨c.screen.chat, c.screen.files, c.audits, c.worked⟩
  rw [hbare] at hobey
  exact ⟨_, congrArg (fun c : Conversation => c.screen.chat) hobey⟩

/-- Whether all of the chat log has been shown. -/
def Dialogue.CaughtUp (d : Dialogue) : Prop :=
  d.shown = d.conversation.screen.chat.length

theorem caughtUp_answer (h : d.CaughtUp) (q : Request) : (d.answer q).1.CaughtUp := by
  cases q with
  | command x => rfl
  | _ => exact h

/-- Once the log has been shown, the news after a command are what the command adds. -/
theorem news_obey (h : d.CaughtUp) (x : Command) :
    ∃ new, (d.obey x).news = new.map .entry ∧
      log (d.conversation.obey x) = log d.conversation ++ new := by
  obtain ⟨new, hnew⟩ := exists_chat_obey d.conversation x
  refine ⟨new.filter (·.sender != .user), ?_, ?_⟩
  · have hdrop : (d.conversation.obey x).screen.chat.drop d.shown = new := by
      rw [hnew, show d.shown = _ from h, List.drop_left]
    exact congrArg (fun es : List ChatEntry => (es.filter _).map Output.entry) hdrop
  · rw [log, hnew, List.filter_append, log]

theorem answer_entries (h : d.CaughtUp) (q : Request) :
    log d.conversation ++ (d.answer q).2.filterMap Output.entry? =
      log (d.answer q).1.conversation := by
  cases q with
  | command x =>
    obtain ⟨new, hnews, hlog⟩ := news_obey h x
    have hout : (d.answer (.command x)).2 = new.map .entry ++ [(d.obey x).status] := by
      rw [← hnews]
      rfl
    rw [hout, List.filterMap_append, filterMap_entry?]
    exact (congrArg (log d.conversation ++ ·) (List.append_nil new)).trans hlog.symm
  | _ => exact List.append_nil _

/-- What is shown is what has been added to the log, in order. -/
theorem answerAll_entries (h : d.CaughtUp) (qs : List Request) :
    log d.conversation ++ (d.answerAll qs).2.filterMap Output.entry? =
      log (d.answerAll qs).1.conversation := by
  induction qs generalizing d with
  | nil => exact List.append_nil _
  | cons q rest ih =>
    rw [Dialogue.answerAll, List.filterMap_append, ← List.append_assoc, answer_entries h]
    exact ih (caughtUp_answer h q)

/-! ### Lines of status -/

/-- A line of status behind outputs that are none. -/
theorem exists_of_append_eq {before after shown rest : List Output} {s : State × String}
    (hbefore : before.filterMap Output.status? = [])
    (h : before ++ after = shown ++ .status s.1 s.2 :: rest) :
    ∃ shown', shown = before ++ shown' ∧ after = shown' ++ .status s.1 s.2 :: rest := by
  rcases List.append_eq_append_iff.mp h with ⟨shown', hshown, hafter⟩ | ⟨more, hbefore', hrest⟩
  · exact ⟨shown', hshown, hafter⟩
  · cases more with
    | nil => exact ⟨[], by simpa using hbefore'.symm, by simpa using hrest.symm⟩
    | cons o more =>
      obtain ⟨rfl, -⟩ := List.cons_eq_cons.mp hrest
      rw [hbefore', List.filterMap_append, List.filterMap_cons] at hbefore
      simp [Output.status?] at hbefore

/-- Each command is followed by one line of status. -/
theorem length_status (d : Dialogue) (qs : List Request) :
    ((d.answerAll qs).2.filterMap Output.status?).length =
      (qs.filterMap Request.command?).length := by
  induction qs generalizing d with
  | nil => rfl
  | cons q rest ih =>
    rw [Dialogue.answerAll, List.filterMap_append, List.length_append, ih]
    cases q with
    | command x =>
      have hnews : ((d.answer (.command x)).2.filterMap Output.status?) =
          [((d.obey x).conversation.state, (d.obey x).conversation.screen.status)] := by
        rw [Dialogue.answer, List.filterMap_append, Dialogue.news, filterMap_status?]
        rfl
      rw [hnews]
      exact Nat.add_comm ..
    | _ => exact Nat.zero_add _

/-- A line of status that comes after those of `k` commands belongs to the next command: it shows
the conversation right after this command, and what has been shown before it is the log up to
then. -/
theorem answerAll_status (h : d.CaughtUp) {qs : List Request} {shown rest : List Output}
    {s : State × String} (hout : (d.answerAll qs).2 = shown ++ .status s.1 s.2 :: rest) :
    let k := (shown.filterMap Output.status?).length
    let now := d.conversation.obeyAll ((qs.filterMap Request.command?).take (k + 1))
    s = (now.state, now.screen.status) ∧
      log d.conversation ++ shown.filterMap Output.entry? = log now := by
  induction qs generalizing d shown with
  | nil => cases shown <;> cases hout
  | cons q qs ih =>
    have hq := caughtUp_answer h q
    rw [Dialogue.answerAll] at hout
    cases q with
    | command x =>
      obtain ⟨new, hnews, hlog⟩ := news_obey h x
      have hsplit : new.map .entry ++ ((d.obey x).status ::
          ((d.answer (.command x)).1.answerAll qs).2) = shown ++ .status s.1 s.2 :: rest := by
        rw [← hnews]
        simpa [Dialogue.answer] using hout
      obtain ⟨shown', rfl, hafter⟩ := exists_of_append_eq (filterMap_status? new) hsplit
      rw [List.filterMap_append, List.filterMap_append, filterMap_status?, filterMap_entry?,
        List.nil_append, ← List.append_assoc, ← hlog]
      cases shown' with
      | nil =>
        -- It is the line of status of this command.
        obtain ⟨hstatus, -⟩ := List.cons_eq_cons.mp hafter
        obtain ⟨hstate, htext⟩ := Output.status.inj hstatus
        exact ⟨Prod.ext hstate.symm htext.symm, List.append_nil _⟩
      | cons o shown' =>
        obtain ⟨rfl, hrest⟩ := List.cons_eq_cons.mp hafter
        exact ih hq hrest
    | statistics =>
      obtain ⟨shown', rfl, hafter⟩ := exists_of_append_eq rfl hout
      have hrest := ih hq hafter
      exact hrest
    | unknown text =>
      obtain ⟨shown', rfl, hafter⟩ := exists_of_append_eq rfl hout
      have hrest := ih hq hafter
      exact hrest
    | quit => exact ih hq hout

/-! ### Whole runs -/

/-- A conversation that has been set up shows its welcome and nothing else. -/
theorem setUp_screen {s : Settings} {disk disk' : Files.Disk} {directory : Files.Location}
    (h : setUp s disk directory = (disk', .ok c)) : c.screen = .start := by
  rw [setUp] at h
  split at h
  · cases h
  · split at h
    · cases h
    · obtain ⟨-, hc⟩ := Prod.mk.inj h
      rw [← Except.ok.inj hc, converse]

/-- The log of a conversation that has just been set up. -/
theorem log_of_setUp {s : Settings} {disk disk' : Files.Disk} {directory : Files.Location}
    (h : setUp s disk directory = (disk', .ok c)) : log c = [⟨.system, Display.welcome⟩] := by
  rw [log, setUp_screen h]
  rfl

/-- A run shows the welcome and answers the requests of its lines. -/
theorem run_of_setUp {s : Settings} {disk disk' : Files.Disk} {directory : Files.Location}
    {bytes : List UInt8} {lines : List String} (hstart : setUp s disk directory = (disk', .ok c))
    (hlines : ReadAs bytes lines) :
    run s disk directory bytes =
      ⟨(c.obeyAll (commands lines)).disk,
        .entry ⟨.system, Display.welcome⟩ ::
          (({ conversation := c } : Dialogue).caughtUp.answerAll (requests lines)).2, none⟩ := by
  let start : Dialogue := { conversation := c }
  have hconversation : (start.caughtUp.answerAll (requests lines)).1.conversation =
      c.obeyAll (commands lines) := answerAll_conversation ..
  have hnews : start.news = [.entry ⟨.system, Display.welcome⟩] := by
    rw [Dialogue.news]
    exact congrArg (List.map Output.entry) (log_of_setUp hstart)
  rw [run, hstart]
  dsimp only
  rw [run_of_texts hlines, ← hconversation, hnews]
  rfl

/-- Some lines of a user who wants to know the statistics, misspells a command and says hello. -/
def greetingBytes : List UInt8 :=
  "/stats\n\n/rset\r\n hello \n/exit\n/reset".toUTF8.toList

end Colloquy.Repl
