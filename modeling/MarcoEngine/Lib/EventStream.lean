import Mathlib.Data.List.Basic

/-!
# Event streams

The format `text/event-stream`: lines that end with a line feed, a carriage return or both, a field and its value on each, and an
empty line behind each event. A reader goes through the text character by character, so it does not matter how the text arrives,
and what it has read so far it never takes back. Written one after the other, events whose names and data stand on one line are
read back as they were written.
-/

namespace EventStream

/-- An event: its name, and its data. -/
abbrev Event := List Char × List Char

/-- What a reader keeps. -/
structure Reader where
  events : List Event
  name : List Char
  data : List Char
  line : List Char
  /-- The last character was a carriage return, which a line feed may follow. -/
  carriage : Bool

namespace Reader

/-- Before the first character. -/
def start : Reader := ⟨[], [], [], [], false⟩

/-- The name of a field, and its value. -/
def field (line : List Char) : List Char × List Char :=
  (line.takeWhile (· ≠ ':'), match line.dropWhile (· ≠ ':') with
    | ':' :: ' ' :: value => value
    | ':' :: value => value
    | _ => [])

/-- An empty line ends an event; without data it is none. -/
def dispatch (r : Reader) : Reader :=
  { r with
    events := if r.data = [] then r.events else r.events ++ [(if r.name = [] then "message".toList else r.name, r.data.dropLast)]
    name := []
    data := [] }

/-- The line is complete. -/
def endLine (r : Reader) : Reader :=
  let r' := { r with line := [] }
  if r.line = [] then r'.dispatch
  else if (field r.line).1 = "event".toList then { r' with name := (field r.line).2 }
  else if (field r.line).1 = "data".toList then { r' with data := r.data ++ (field r.line).2 ++ ['\n'] }
  else r'

/-- The next character. -/
def push (r : Reader) (c : Char) : Reader :=
  if c = '\n' then (if r.carriage then { r with carriage := false } else r.endLine)
  else if c = '\r' then { r.endLine with carriage := true }
  else { r with line := r.line ++ [c], carriage := false }

/-- The next characters. -/
def feed (r : Reader) (text : List Char) : Reader := text.foldl push r

theorem feed_append (r : Reader) (text more : List Char) : r.feed (text ++ more) = (r.feed text).feed more := List.foldl_append

theorem feed_cons (r : Reader) (c : Char) (text : List Char) : r.feed (c :: text) = (r.push c).feed text := rfl

theorem endLine_events (r : Reader) : r.events <+: r.endLine.events := by
  unfold endLine dispatch
  dsimp only
  split
  · split
    · exact List.prefix_refl _
    · exact List.prefix_append _ _
  · split
    · exact List.prefix_refl _
    · split <;> exact List.prefix_refl _

/-- What was read stays. -/
theorem feed_events (r : Reader) (text : List Char) : r.events <+: (r.feed text).events := by
  induction text generalizing r with
  | nil => exact List.prefix_refl _
  | cons c text ih =>
    refine List.IsPrefix.trans ?_ (ih (r.push c))
    unfold push
    split
    · split
      · exact List.prefix_refl _
      · exact r.endLine_events
    · split
      · exact r.endLine_events
      · exact List.prefix_refl _

end Reader

/-- The events of a text. -/
def decode (text : List Char) : List Event := (Reader.start.feed text).events

/-- The events of the beginning of a text are the first ones of the text. -/
theorem decode_prefix {text text' : List Char} (h : text <+: text') : decode text <+: decode text' := by
  obtain ⟨more, rfl⟩ := h
  unfold decode
  rw [Reader.feed_append]
  exact Reader.feed_events _ more

/-- A text that stands on one line. -/
def OneLine (text : List Char) : Prop := '\n' ∉ text ∧ '\r' ∉ text

instance (text : List Char) : Decidable (OneLine text) := inferInstanceAs (Decidable (_ ∧ _))

/-- The lines of an event, and the empty line behind them. -/
def frame (e : Event) : List Char :=
  ("event: ".toList ++ e.1) ++ '\n' :: (("data: ".toList ++ e.2) ++ '\n' :: ['\n'])

/-- An event that can be written: it has a name, and its name and its data stand on one line each. -/
structure Plain (e : Event) : Prop where
  named : e.1 ≠ []
  name : OneLine e.1
  data : OneLine e.2

namespace Reader

/-- The characters of a line are kept until it ends. -/
theorem feed_line {text : List Char} (h : OneLine text) (events : List Event) (name data line : List Char) :
    (⟨events, name, data, line, false⟩ : Reader).feed text = ⟨events, name, data, line ++ text, false⟩ := by
  induction text generalizing line with
  | nil => rw [List.append_nil]; rfl
  | cons c text ih =>
    obtain ⟨hn, hr⟩ := h
    rw [List.mem_cons, not_or] at hn hr
    rw [feed_cons, push, if_neg (Ne.symm hn.1), if_neg (Ne.symm hr.1)]
    dsimp only
    rw [ih ⟨hn.2, hr.2⟩, List.append_assoc, List.singleton_append]

/-- A line, and the line feed behind it. -/
theorem feed_endLine {text : List Char} (h : OneLine text) (events : List Event) (name data more : List Char) :
    (⟨events, name, data, [], false⟩ : Reader).feed (text ++ '\n' :: more) =
      (endLine ⟨events, name, data, text, false⟩).feed more := by
  rw [feed_append, feed_line h, feed_cons, List.nil_append]
  rfl

theorem oneLine_append {text more : List Char} (h : OneLine text) (h' : OneLine more) : OneLine (text ++ more) := by
  simp only [OneLine, List.mem_append, not_or] at h h' ⊢
  exact ⟨⟨h.1, h'.1⟩, h.2, h'.2⟩

theorem field_event (value : List Char) : field ("event: ".toList ++ value) = ("event".toList, value) := rfl

theorem field_data (value : List Char) : field ("data: ".toList ++ value) = ("data".toList, value) := rfl

/-- Between two events the next one is read as it was written. -/
theorem feed_frame {e : Event} (h : Plain e) (events : List Event) (more : List Char) :
    (⟨events, [], [], [], false⟩ : Reader).feed (frame e ++ more) =
      (⟨events ++ [e], [], [], [], false⟩ : Reader).feed more := by
  obtain ⟨name, data⟩ := e
  have hname : OneLine ("event: ".toList ++ name) := oneLine_append (by decide) h.name
  have hdata : OneLine ("data: ".toList ++ data) := oneLine_append (by decide) h.data
  have hframe : frame (name, data) ++ more =
      ("event: ".toList ++ name) ++ '\n' :: (("data: ".toList ++ data) ++ '\n' :: ([] ++ '\n' :: more)) := by
    unfold frame
    simp only [List.append_assoc, List.cons_append, List.nil_append]
  rw [hframe, feed_endLine hname]
  have hevent : endLine ⟨events, [], [], "event: ".toList ++ name, false⟩ = ⟨events, name, [], [], false⟩ := by
    unfold endLine
    rw [field_event]
    rfl
  rw [hevent, feed_endLine hdata]
  have hdataLine : endLine ⟨events, name, [], "data: ".toList ++ data, false⟩ = ⟨events, name, data ++ ['\n'], [], false⟩ := by
    unfold endLine
    rw [field_data]
    rfl
  rw [hdataLine, feed_endLine (by decide)]
  have hdispatch : endLine ⟨events, name, data ++ ['\n'], [], false⟩ = ⟨events ++ [(name, data)], [], [], [], false⟩ := by
    simp [endLine, dispatch, show name ≠ [] from h.named]
  rw [hdispatch]

theorem feed_frames {es : List Event} (h : ∀ e ∈ es, Plain e) (events : List Event) (more : List Char) :
    (⟨events, [], [], [], false⟩ : Reader).feed (es.flatMap frame ++ more) =
      (⟨events ++ es, [], [], [], false⟩ : Reader).feed more := by
  induction es generalizing events with
  | nil => rw [List.append_nil]; rfl
  | cons e es ih =>
    rw [List.flatMap_cons, List.append_assoc, feed_frame (h e List.mem_cons_self),
      ih (fun e' he' => h e' (List.mem_cons_of_mem _ he')), List.append_assoc, List.singleton_append]

end Reader

/-- Events are read back as they were written. -/
theorem decode_frames {es : List Event} (h : ∀ e ∈ es, Plain e) : decode (es.flatMap frame) = es := by
  have hfeed := Reader.feed_frames h [] []
  rw [List.append_nil] at hfeed
  exact congrArg Reader.events hfeed

/-- From the beginning of the text a reader has the first events. -/
theorem decode_cut {es : List Event} (h : ∀ e ∈ es, Plain e) {text : List Char} (htext : text <+: es.flatMap frame) :
    decode text <+: es := by
  have hprefix := decode_prefix htext
  rwa [decode_frames h] at hprefix

end EventStream
