import SparkRsi.Shared.Lines
import SparkRsi.Shared.Run
import SparkRsi.Supervisor.Messages

set_option autoImplicit false

namespace SparkRsi.Supervisor

open Shared

def newline : UInt8 := 10

structure Wire (α : Type) where
  -- Written, and not read from the socket yet.
  flight : Bytes
  shut : Bool
  buffer : Bytes
  -- What the receive under way has of its line.
  line : Bytes
  received : List (Except String α)
  sent : List α
  -- The message a writer died over, and what it wrote of it.
  dying : Option α
  torn : Bytes

def Wire.start {α : Type} : Wire α :=
  { flight := [], shut := false, buffer := [], line := [], received := [], sent := [], dying := none, torn := [] }

inductive WireEvent (α : Type) where
  | send (message : α)
  | die (message : α) (written : Nat)
  | close
  | poll (more : Nat)

section Frames

variable {α : Type} (codec : FrameCodec α)

def frame (message : α) : Bytes := utf8 (codec.render message) ++ [newline]

def decode (line : Bytes) : Except String α :=
  match fromUtf8 line with
  | none => .error "Failed to read IPC frame: stream did not contain valid UTF-8"
  | some text => (codec.parse (String.ofList (TextLines.trim text.toList))).mapError fun e =>
    s!"Failed to deserialize IPC message: {e}"

def closedByPeer : Except String α := .error "IPC connection closed by peer"

def consume (w : Wire α) (available : Bytes) : Wire α :=
  match available.dropWhile (· ≠ newline) with
  | [] => { w with buffer := [], line := w.line ++ available }
  | last :: rest =>
    { w with
      buffer := rest
      line := []
      received := w.received ++ [decode codec (w.line ++ (available.takeWhile (· ≠ newline) ++ [last]))] }

/-- At the end of the stream a line needs no line feed. -/
def atEnd (w : Wire α) : Wire α :=
  { w with
    line := []
    received := w.received ++ [if w.line = [] then closedByPeer else decode codec w.line] }

/-- One turn of the loop of a receive, which has at most `more + 1` bytes from the socket. Whoever reads on lets a
receive that has begun run to its end, so that its line is kept for the next turn. -/
def poll (w : Wire α) (more : Nat) : Wire α :=
  if w.buffer ≠ [] then consume codec w w.buffer
  else if w.flight ≠ [] then consume codec { w with flight := w.flight.drop (more + 1) } (w.flight.take (more + 1))
  else if w.shut then atEnd codec w
  else w

def send (w : Wire α) (message : α) : Wire α :=
  { w with flight := w.flight ++ frame codec message, sent := w.sent ++ [message] }

def wireStep (w : Wire α) : WireEvent α → Wire α
  | .send message => if w.shut then w else send codec w message
  | .die message written =>
    if w.shut then w
    else if written < (frame codec message).length then
      { w with
        flight := w.flight ++ (frame codec message).take written
        shut := true
        dying := some message
        torn := (frame codec message).take written }
    else { send codec w message with shut := true }
  | .close => { w with shut := true }
  | .poll more => poll codec w more

end Frames

section Codec

variable {α : Type} {codec : FrameCodec α}

theorem newline_render (message : α) : newline ∉ utf8 (codec.render message) :=
  fun member => codec.one_line message (low_utf8 _ newline member (by decide))

theorem decode_text (text : String) (line : Bytes) (read : fromUtf8 line = some text) :
    decode codec line = (codec.parse (String.ofList (TextLines.trim text.toList))).mapError fun e =>
      s!"Failed to deserialize IPC message: {e}" := by
  rw [decode, read]

theorem decode_frame (message : α) : decode codec (frame codec message) = .ok message := by
  have text : frame codec message = utf8 (codec.render message ++ "\n") := by
    rw [utf8_append]
    rfl
  have line : (codec.render message ++ "\n").toList = (codec.render message).toList ++ ['\n'] := String.toList_append
  rw [text, decode_text _ _ (fromUtf8_utf8 _), line, TextLines.trim_snoc (by decide), codec.trimmed,
    String.ofList_toList, codec.parse_render]
  rfl

/-- What is left of a frame that was cut is the message without its line feed, or no message. -/
theorem decode_torn {message : α} {written : Nat} (short : written < (frame codec message).length) :
    newline ∉ (frame codec message).take written ∧
      (decode codec ((frame codec message).take written) = .ok message ∨
        ∃ e, decode codec ((frame codec message).take written) = .error e) := by
  have inside : (frame codec message).take written = (utf8 (codec.render message)).take written := by
    rw [frame, List.length_append, List.length_singleton] at short
    rw [frame, List.take_append_of_le_length (Nat.le_of_lt_succ short)]
  rw [inside]
  refine ⟨fun member => newline_render message (List.mem_of_mem_take member), ?_⟩
  cases read : fromUtf8 ((utf8 (codec.render message)).take written) with
  | none =>
    right
    rw [decode, read]
    exact ⟨_, rfl⟩
  | some text =>
    have bytes : utf8 text <+: utf8 (codec.render message) := by
      rw [← fromUtf8_eq_some.mp read]
      exact List.take_prefix _ _
    have part := TextLines.trim_prefix (codec.trimmed message) (prefix_of_utf8 bytes)
    rw [decode_text _ _ read]
    by_cases same : String.ofList (TextLines.trim text.toList) = codec.render message
    next =>
      left
      rw [same, codec.parse_render]
      rfl
    next =>
      right
      rw [← String.toList_ofList (l := TextLines.trim text.toList)] at part
      obtain ⟨e, failed⟩ := codec.whole message _ part same
      rw [failed]
      exact ⟨_, rfl⟩

end Codec

section Runs

variable {α : Type} {codec : FrameCodec α} {w : Wire α}

variable (codec) in
def Broken (w : Wire α) : Prop :=
  (w.dying = none ∧ w.torn = []) ∨ w.shut = true ∧ ∃ message written, w.dying = some message ∧
    written < (frame codec message).length ∧ w.torn = (frame codec message).take written

variable (codec) in
/-- While the stream lasts: what was received, and what is still on its way. -/
def Reading (w : Wire α) (arriving : Bytes) : Prop :=
  ∃ done todo, w.sent = done ++ todo ∧ w.received = done.map .ok ∧
    w.line ++ arriving = todo.flatMap (frame codec) ++ w.torn ∧ newline ∉ w.line

variable (codec) in
def Ended (w : Wire α) : Prop :=
  w.shut = true ∧ w.line = [] ∧ w.buffer = [] ∧ w.flight = [] ∧ ∃ rest seen,
    w.received = w.sent.map .ok ++ (rest ++ List.replicate seen closedByPeer) ∧
      (rest = [] ∨ w.torn ≠ [] ∧ rest = [decode codec w.torn])

variable (codec) in
def WireLaw (w : Wire α) : Prop := Broken codec w ∧ (Reading codec w (w.buffer ++ w.flight) ∨ Ended codec w)

theorem Broken.unterminated (broken : Broken codec w) : newline ∉ w.torn := by
  obtain ⟨-, torn⟩ | ⟨-, message, written, -, short, torn⟩ := broken
  next => rw [torn]; exact List.not_mem_nil
  next => rw [torn]; exact (decode_torn short).1

theorem Broken.open (broken : Broken codec w) (unshut : w.shut = false) : w.dying = none ∧ w.torn = [] := by
  obtain whole | ⟨shut, -⟩ := broken
  next => exact whole
  next => cases unshut.symm.trans shut

theorem consume_reading {available flight : Bytes} (broken : Broken codec w) (flies : w.flight = flight)
    (reading : Reading codec w (available ++ flight)) :
    Reading codec (consume codec w available) ((consume codec w available).buffer ++ (consume codec w available).flight) := by
  obtain ⟨done, todo, sent, received, bytes, unbroken⟩ := reading
  have parts := List.takeWhile_append_dropWhile (p := (· ≠ newline)) (l := available)
  have before : newline ∉ available.takeWhile (· ≠ newline) := by
    intro member
    simpa using List.mem_takeWhile_imp member
  unfold consume
  split
  next none_ =>
    rw [none_, List.append_nil] at parts
    refine ⟨done, todo, sent, received, ?_, ?_⟩
    next => rw [← bytes, flies, List.nil_append, List.append_assoc]
    next =>
      rw [parts] at before
      exact List.not_mem_append unbroken before
  next last rest found =>
    have feed : last = newline := by
      have head := List.head?_dropWhile_not (· ≠ newline) available
      rw [found] at head
      simpa using head
    subst feed
    rw [found] at parts
    rw [← parts] at bytes
    cases todo with
    | nil =>
      exfalso
      apply broken.unterminated
      rw [List.flatMap_nil, List.nil_append] at bytes
      rw [← bytes]
      simp
    | cons message more =>
      have lines : (w.line ++ available.takeWhile (· ≠ newline)) ++ newline :: (rest ++ flight) =
          utf8 (codec.render message) ++ newline :: (more.flatMap (frame codec) ++ w.torn) := by
        simpa only [List.flatMap_cons, frame, List.append_assoc, List.singleton_append, List.cons_append,
          List.nil_append] using bytes
      obtain ⟨line, later⟩ := Lines.line_inj newline (List.not_mem_append unbroken before) (newline_render message) lines
      refine ⟨done ++ [message], more, by simp [sent], ?_, ?_, List.not_mem_nil⟩
      next =>
        rw [received, ← List.append_assoc, line, ← frame, decode_frame, List.map_append]
        rfl
      next => rw [List.nil_append, flies, later]

theorem poll_law (more : Nat) (law : WireLaw codec w) : WireLaw codec (poll codec w more) := by
  obtain ⟨broken, law⟩ := law
  have same (available : Bytes) (v : Wire α) (keeps : Broken codec v) : Broken codec (consume codec v available) := by
    unfold consume
    split
    next => exact keeps
    next => exact keeps
  unfold poll
  split
  next ready =>
    refine ⟨same _ _ broken, .inl ?_⟩
    cases law with
    | inl reading => exact consume_reading broken rfl reading
    | inr ended => exact absurd ended.2.2.1 ready
  next waiting =>
    rw [not_not] at waiting
    split
    next flying =>
      refine ⟨same _ _ broken, .inl ?_⟩
      cases law with
      | inl reading =>
        rw [waiting, List.nil_append, ← List.take_append_drop (more + 1) w.flight] at reading
        exact @consume_reading _ codec { w with flight := w.flight.drop (more + 1) } _ _ broken rfl reading
      | inr ended => exact absurd ended.2.2.2.1 flying
    next landed =>
      rw [not_not] at landed
      split
      next shut =>
        refine ⟨broken, .inr ⟨shut, rfl, waiting, landed, ?_⟩⟩
        cases law with
        | inr ended =>
          obtain ⟨-, line, -, -, rest, seen, received, left⟩ := ended
          refine ⟨rest, seen + 1, ?_, left⟩
          simp only [atEnd, if_pos line, received, List.replicate_succ', List.append_assoc]
        | inl reading =>
          obtain ⟨done, todo, sent, received, bytes, unbroken⟩ := reading
          rw [waiting, landed, List.append_nil, List.append_nil] at bytes
          have all : todo = [] := by
            cases todo with
            | nil => rfl
            | cons message more =>
              rw [bytes] at unbroken
              simp [frame] at unbroken
          subst all
          rw [List.append_nil] at sent
          rw [List.flatMap_nil, List.nil_append] at bytes
          by_cases clean : w.line = []
          next =>
            refine ⟨[], 1, ?_, .inl rfl⟩
            rw [atEnd, if_pos clean, received, ← sent]
            rfl
          next =>
            refine ⟨[decode codec w.torn], 0, ?_, .inr ⟨bytes ▸ clean, rfl⟩⟩
            rw [atEnd, if_neg clean, received, ← sent, bytes]
            rfl
      next => exact ⟨broken, law⟩

theorem send_law (message : α) (unshut : w.shut = false) (law : WireLaw codec w) :
    WireLaw codec (send codec w message) := by
  obtain ⟨broken, law⟩ := law
  obtain ⟨-, torn⟩ := broken.open unshut
  refine ⟨broken, ?_⟩
  cases law with
  | inr ended => cases unshut.symm.trans ended.1
  | inl reading =>
    obtain ⟨done, todo, sent, received, bytes, unbroken⟩ := reading
    refine .inl ⟨done, todo ++ [message], by simp [send, sent], received, ?_, unbroken⟩
    rw [torn, List.append_nil] at bytes
    simp only [send, torn, List.flatMap_append, ← bytes, List.flatMap_singleton, List.append_nil, List.append_assoc]

theorem wireStep_law (event : WireEvent α) (law : WireLaw codec w) : WireLaw codec (wireStep codec w event) := by
  have shutting {v : Wire α} (lawful : WireLaw codec v) : WireLaw codec { v with shut := true } := by
    obtain ⟨broken, law⟩ := lawful
    refine ⟨broken.imp_right fun dead => ⟨rfl, dead.2⟩, law.imp_right fun ended => ⟨rfl, ended.2⟩⟩
  cases event with
  | poll more => exact poll_law more law
  | close => exact shutting law
  | send message =>
    simp only [wireStep]
    split
    next => exact law
    next unshut => exact send_law message (Bool.eq_false_iff.mpr unshut) law
  | die message written =>
    simp only [wireStep]
    split
    next => exact law
    next unshut =>
      rw [Bool.not_eq_true] at unshut
      split
      next short =>
        obtain ⟨broken, law⟩ := law
        obtain ⟨-, torn⟩ := broken.open unshut
        refine ⟨.inr ⟨rfl, message, written, rfl, short, rfl⟩, ?_⟩
        cases law with
        | inr ended => cases unshut.symm.trans ended.1
        | inl reading =>
          obtain ⟨done, todo, sent, received, bytes, unbroken⟩ := reading
          refine .inl ⟨done, todo, sent, received, ?_, unbroken⟩
          rw [torn, List.append_nil] at bytes
          rw [← List.append_assoc, ← List.append_assoc, List.append_assoc w.line, bytes]
      next => exact shutting (send_law message unshut law)

theorem start_law : WireLaw codec Wire.start :=
  ⟨.inl ⟨rfl, rfl⟩, .inl ⟨[], [], rfl, rfl, rfl, List.not_mem_nil⟩⟩

/-- However the writes, the pieces that arrive and the receives follow each other, and wherever the writer dies: what
is received are the messages sent, in their order and none twice, and perhaps the one the writer died over. Errors
come behind all of them, after the writer is gone, and nothing that has arrived is kept back. -/
theorem wire_delivers (codec : FrameCodec α) (events : List (WireEvent α)) :
    let w := Run.final (wireStep codec) .start events
    ∃ delivered errors, w.received = delivered.map .ok ++ errors ∧ delivered <+: w.sent ++ w.dying.toList ∧
      (∀ r ∈ errors, ∃ e, r = .error e) ∧ (errors ≠ [] → w.shut = true ∧ w.sent <+: delivered) ∧
      (w.flight = [] → w.buffer = [] → w.sent <+: delivered) := by
  intro w
  obtain ⟨broken, law⟩ : WireLaw codec w :=
    Run.invariant_final (wireStep codec) (WireLaw codec) (fun _ event law => wireStep_law event law) .start events start_law
  have closed (seen : Nat) : ∀ r ∈ List.replicate seen (closedByPeer : Except String α), ∃ e, r = .error e := by
    intro r member
    exact ⟨_, List.eq_of_mem_replicate member⟩
  cases law with
  | inl reading =>
    obtain ⟨done, todo, sent, received, bytes, unbroken⟩ := reading
    refine ⟨done, [], by rw [received, List.append_nil], ?_, List.forall_mem_nil _, fun some_ => absurd rfl some_, ?_⟩
    next =>
      rw [sent, List.append_assoc]
      exact List.prefix_append _ _
    next =>
      intro landed taken
      rw [landed, taken, List.append_nil, List.append_nil] at bytes
      cases todo with
      | nil => rw [sent, List.append_nil]
      | cons message more =>
        rw [bytes] at unbroken
        simp [frame] at unbroken
  | inr ended =>
    obtain ⟨shut, -, -, -, rest, seen, received, left⟩ := ended
    have all (some_ : List α) : w.sent <+: w.sent ++ some_ := List.prefix_append _ _
    obtain rfl | ⟨torn, rfl⟩ := left
    next =>
      exact ⟨w.sent, _, received, all _, closed seen, fun _ => ⟨shut, List.prefix_rfl⟩, fun _ _ => List.prefix_rfl⟩
    next =>
      obtain ⟨-, empty⟩ | ⟨-, message, written, dying, short, cut⟩ := broken
      next => exact absurd empty torn
      rw [cut] at received
      obtain ⟨-, whole | ⟨e, failed⟩⟩ := @decode_torn _ codec message written short
      next =>
        refine ⟨w.sent ++ [message], _, ?_, by rw [dying]; rfl, closed seen, fun _ => ⟨shut, all _⟩, fun _ _ => all _⟩
        rw [received, whole, List.map_append, List.append_assoc]
        rfl
      next =>
        refine ⟨w.sent, .error e :: List.replicate seen closedByPeer, by rw [received, failed]; rfl, all _, ?_,
          fun _ => ⟨shut, List.prefix_rfl⟩, fun _ _ => List.prefix_rfl⟩
        exact List.forall_mem_cons.mpr ⟨⟨e, rfl⟩, closed seen⟩

-- Two frames that arrive in pieces, and a third the writer dies over.
def workerTraffic : List (WireEvent WorkerMessage) :=
  [.send (.ready "gen-002" 7 "" 1), .poll 24, .send .pong, .poll 70, .poll 9, .poll 9,
    .die (.drainComplete "gen-002") 12, .poll 99, .poll 0, .poll 0]

theorem wire_delivers_worker :
    ∃ delivered errors, (Run.final (wireStep WorkerMessage.codec) .start workerTraffic).received =
        delivered.map .ok ++ errors ∧ [.ready "gen-002" 7 "" 1, .pong] <+: delivered ∧
      ∀ r ∈ errors, ∃ e, r = .error e := by
  have sent : (Run.final (wireStep WorkerMessage.codec) .start workerTraffic).sent =
      [.ready "gen-002" 7 "" 1, .pong] := by decide +kernel
  have landed : (Run.final (wireStep WorkerMessage.codec) .start workerTraffic).flight = [] := by decide +kernel
  have taken : (Run.final (wireStep WorkerMessage.codec) .start workerTraffic).buffer = [] := by decide +kernel
  obtain ⟨delivered, errors, received, -, failures, -, all⟩ := wire_delivers WorkerMessage.codec workerTraffic
  exact ⟨delivered, errors, received, sent ▸ all landed taken, failures⟩

example : (Run.final (wireStep WorkerMessage.codec) .start workerTraffic).received =
    [.ok (.ready "gen-002" 7 "" 1), .ok .pong, .error "Failed to deserialize IPC message: invalid message",
      closedByPeer] := by
  decide +kernel

end Runs

end SparkRsi.Supervisor
