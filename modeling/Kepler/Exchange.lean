/-
This file models a connection from both ends (`protocol.rs`, `client.rs`, `server.rs`). A message
travels as a frame, a length of four bytes before a payload. The daemon handles the requests of a
connection side by side and answers them in any order. Every call still gets the answer to its own
request, as long as no answer is too long for its length to be written down.
-/

import Mathlib.Algebra.Ring.Nat
import Mathlib.Data.List.Forall2
import Kepler.Connection

namespace Kepler

open Runs List

/-! ### Frames -/

abbrev Bytes := List UInt8

def toBeBytes (number : Nat) : Bytes :=
  [number / 2 ^ 24, number / 2 ^ 16, number / 2 ^ 8, number].map UInt8.ofNat

def fromBeBytes (bytes : Bytes) : Nat :=
  bytes.foldl (fun number byte => 256 * number + byte.toNat) 0

theorem fromBeBytes_toBeBytes {number : Nat} (fits : number < 2 ^ 32) :
    fromBeBytes (toBeBytes number) = number := by
  simp only [fromBeBytes, toBeBytes, List.map, List.foldl, UInt8.toNat_ofNat']
  omega

structure Codec (Message : Type) where
  serialize : Message → Option Bytes
  deserialize : Bytes → Option Message
  inverse : ∀ message bytes, serialize message = some bytes → deserialize bytes = some message

inductive ProtocolError where
  | encode
  | messageTooLarge
  deriving DecidableEq, Repr

def maxMessageSize : Nat := 10 * 1024 * 1024

namespace Codec

variable {Message : Type} (codec : Codec Message)

/-- The length is checked against the limit, if any, and cut to 32 bits. -/
def encode (limit : Option Nat) (message : Message) : Except ProtocolError Bytes :=
  match codec.serialize message with
  | none => .error .encode
  | some payload =>
    if limit.any (· < payload.length) then .error .messageTooLarge
    else .ok (toBeBytes (payload.length % 2 ^ 32) ++ payload)

def encodeEnvelope : Message → Except ProtocolError Bytes := codec.encode (some maxMessageSize)

def encodeServerMessage : Message → Except ProtocolError Bytes := codec.encode none

def readExact (wanted : Nat) (stream : Bytes) : Option (Bytes × Bytes) :=
  if wanted ≤ stream.length then some (stream.splitAt wanted) else none

/-- The stream has ended before a payload or within one, or a payload is too large. -/
inductive ReadEnd where
  | eof
  | receive
  | messageTooLarge
  | reading
  deriving DecidableEq, Repr

/-- One frame off a stream: its payload, and what follows. -/
def readFrame (limit : Option Nat) (stream : Bytes) : Except ReadEnd (Bytes × Bytes) :=
  match readExact 4 stream with
  | none => .error .eof
  | some (header, stream) =>
    if limit.any (· < fromBeBytes header) then .error .messageTooLarge
    else match readExact (fromBeBytes header) stream with
      | none => .error .receive
      | some (payload, stream) => .ok (payload, stream)

/-- The loops of `handle_client` and of the client that read frames, for a number of rounds. Only
the daemon has a limit. A payload that cannot be decoded is passed over. -/
def receive (limit : Option Nat) : Nat → Bytes → List Message × ReadEnd
  | 0, _ => ([], .reading)
  | rounds + 1, stream => match readFrame limit stream with
    | .error ended => ([], ended)
    | .ok (payload, stream) =>
      let (messages, ended) := receive limit rounds stream
      ((codec.deserialize payload).toList ++ messages, ended)

theorem readExact_append (bytes later : Bytes) :
    readExact bytes.length (bytes ++ later) = some (bytes, later) := by
  simp [readExact]

variable {codec} {limit : Option Nat} {message : Message} {messages : List Message}
  {frames : List Bytes}

theorem encode_eq_ok {bytes : Bytes} (encoded : codec.encode limit message = .ok bytes) :
    ∃ payload, codec.serialize message = some payload ∧ ¬ limit.any (· < payload.length) ∧
      toBeBytes (payload.length % 2 ^ 32) ++ payload = bytes := by
  unfold encode at encoded
  cases serialized : codec.serialize message <;> grind

theorem readFrame_frame {frame : Bytes} (encoded : codec.encode limit message = .ok frame)
    (fits : frame.length < 2 ^ 32 + 4) (stream : Bytes) :
    ∃ payload, readFrame limit (frame ++ stream) = .ok (payload, stream) ∧
      codec.deserialize payload = some message := by
  obtain ⟨payload, serialized, allowed, rfl⟩ := encode_eq_ok encoded
  refine ⟨payload, ?_, codec.inverse message payload serialized⟩
  have short : payload.length < 2 ^ 32 := by
    simp only [toBeBytes, length_append, length_map, length_cons, length_nil] at fits
    omega
  have header := readExact_append (toBeBytes payload.length) (payload ++ stream)
  rw [show (toBeBytes payload.length).length = 4 from rfl] at header
  rw [Nat.mod_eq_of_lt short, append_assoc, readFrame, header]
  simp [fromBeBytes_toBeBytes short, allowed, readExact_append]

theorem receive_frame {frame : Bytes} (encoded : codec.encode limit message = .ok frame)
    (fits : frame.length < 2 ^ 32 + 4) (rounds : Nat) (stream : Bytes) :
    codec.receive limit (rounds + 1) (frame ++ stream) =
      (codec.receive limit rounds stream).map (message :: ·) id := by
  obtain ⟨payload, read, decoded⟩ := readFrame_frame encoded fits stream
  rw [receive, read]
  simp [decoded, Prod.map]

theorem receive_frames (encoded : Forall₂ (codec.encode limit · = .ok ·) messages frames)
    (fit : ∀ frame ∈ frames, frame.length < 2 ^ 32 + 4) (rounds : Nat) (later : Bytes) :
    codec.receive limit (messages.length + rounds) (frames.flatten ++ later) =
      (codec.receive limit rounds later).map (messages ++ ·) id := by
  induction encoded with
  | nil => simp [Prod.map]
  | cons first _ inductionHypothesis =>
    rw [forall_mem_cons] at fit
    rw [length_cons, flatten_cons, append_assoc, Nat.add_right_comm, receive_frame first fit.1,
      inductionHypothesis fit.2]
    rfl

theorem length_of_encodeEnvelope
    (encoded : Forall₂ (codec.encodeEnvelope · = .ok ·) messages frames) :
    ∀ frame ∈ frames, frame.length < 2 ^ 32 + 4 := by
  induction encoded with
  | nil => simp
  | cons first _ inductionHypothesis =>
    obtain ⟨payload, _, allowed, rfl⟩ := encode_eq_ok first
    refine forall_mem_cons.mpr ⟨?_, inductionHypothesis⟩
    simp [maxMessageSize, toBeBytes] at allowed ⊢
    omega

/-- Each side reads what the other one has written in full, whatever follows in the stream. The
length of a request is limited when it is written. That of a server message is not, and must fit. -/
theorem streams_read_back {Envelope : Type} {requests : Codec Envelope} {responses : Codec Message}
    {envelopes : List Envelope} {requestFrames : List Bytes}
    (asked : Forall₂ (requests.encodeEnvelope · = .ok ·) envelopes requestFrames)
    (answered : Forall₂ (responses.encodeServerMessage · = .ok ·) messages frames)
    (fit : ∀ frame ∈ frames, frame.length < 2 ^ 32 + 4) (rounds : Nat) (later : Bytes) :
    requests.receive (some maxMessageSize) (envelopes.length + rounds)
        (requestFrames.flatten ++ later) =
      (requests.receive (some maxMessageSize) rounds later).map (envelopes ++ ·) id ∧
    responses.receive none (messages.length + rounds) (frames.flatten ++ later) =
      (responses.receive none rounds later).map (messages ++ ·) id :=
  ⟨receive_frames asked (length_of_encodeEnvelope asked) rounds later,
    receive_frames answered fit rounds later⟩

def toLeBytes (number : Nat) : Bytes :=
  [number, number / 2 ^ 8, number / 2 ^ 16, number / 2 ^ 24, number / 2 ^ 32, number / 2 ^ 40,
    number / 2 ^ 48, number / 2 ^ 56].map UInt8.ofNat

theorem fromBeBytes_reverse_toLeBytes {number : Nat} (fits : number < 2 ^ 64) :
    fromBeBytes (toLeBytes number).reverse = number := by
  simp only [fromBeBytes, toLeBytes, List.map, List.reverse, List.reverseAux, List.foldl,
    UInt8.toNat_ofNat']
  omega

/-- What bincode makes of a message given up to its identifier: eight bytes between others. -/
def numbered (before after : Bytes) : Codec (Nat × Unit) where
  serialize message :=
    if message.1 < 2 ^ 64 then some (before ++ (toLeBytes message.1 ++ after)) else none
  deserialize bytes :=
    let id := fromBeBytes ((bytes.drop before.length).take 8).reverse
    if bytes = before ++ (toLeBytes id ++ after) then some (id, ()) else none
  inverse := by
    rintro ⟨id, _⟩ bytes serialized
    split_ifs at serialized with fits
    cases serialized
    have eight : (toLeBytes id ++ after).take 8 = toLeBytes id := @take_left _ (toLeBytes id) after
    rw [drop_left, eight, fromBeBytes_reverse_toLeBytes fits, if_pos rfl]

/-- A request envelope with `Ping` and without a token. -/
def pings : Codec (Nat × Unit) := numbered [] [7, 0, 0, 0, 0]

/-- The answer with the message `pong`. -/
def pongs : Codec (Nat × Unit) :=
  numbered [0, 0, 0, 0] [0, 0, 0, 0, 1, 4, 0, 0, 0, 0, 0, 0, 0, 112, 111, 110, 103, 0]

def pingFrame (id : UInt8) : Bytes := [0, 0, 0, 13, id, 0, 0, 0, 0, 0, 0, 0, 7, 0, 0, 0, 0]

def pongFrame (id : UInt8) : Bytes :=
  [0, 0, 0, 30, 0, 0, 0, 0, id, 0, 0, 0, 0, 0, 0, 0, 0, 0, 0, 0, 1, 4, 0, 0, 0, 0, 0, 0, 0, 112,
    111, 110, 103, 0]

/-- Two frames in each direction. The streams end within a third one. -/
theorem pings_read_back :
    pings.receive (some maxMessageSize) 3 ([pingFrame 1, pingFrame 2].flatten ++ [0]) =
        ([(1, ()), (2, ())], .eof) ∧
      pongs.receive none 3 ([pongFrame 2, pongFrame 1].flatten ++ [0]) =
        ([(2, ()), (1, ())], .eof) := by
  have asked : Forall₂ (pings.encodeEnvelope · = .ok ·) [(1, ()), (2, ())]
      [pingFrame 1, pingFrame 2] := .cons rfl (.cons rfl .nil)
  have answered : Forall₂ (pongs.encodeServerMessage · = .ok ·) [(2, ()), (1, ())]
      [pongFrame 2, pongFrame 1] := .cons rfl (.cons rfl .nil)
  exact streams_read_back asked answered (by decide) 1 [0]

end Codec

/-! ### Calls and their answers -/

/-- A connection: the client, the envelopes of its calls until their handlers have ended, and the
bytes on the way back. Calls may send their envelopes and handlers may end in any order. Events that
the daemon pushes are left out. For the record there are the answers that were written and not read,
the calls, the answers that they got, and the identifiers of those whose request or answer could not
be encoded. -/
structure Exchange (Request Response : Type) where
  client : Client := {}
  requests : List (Nat × Request) := []
  stream : Bytes := []
  answers : List (Nat × Response) := []
  asked : List (Nat × Request) := []
  received : List (Nat × Response) := []
  failed : List Nat := []

namespace Exchange

variable {Request Response : Type}

/-- Another step of the client, a call, the end of a handler, or a frame that is read. -/
inductive Event (Request Response : Type) where
  | client (event : Client.Event)
  | call (request : Request)
  | respond (index : Nat) (response : Response)
  | read

variable (envelopes : Codec (Nat × Request)) (messages : Codec (Nat × Response))

/-- A call inserts its entry before it encodes the request. The reader waits for a whole frame. -/
def step (exchange : Exchange Request Response) :
    Event Request Response → Exchange Request Response
  | .client .insert | .client (.respond _) => exchange
  | .client event => { exchange with client := exchange.client.step event }
  | .call request =>
    if exchange.client.calls = 0 then exchange
    else
      let envelope := (exchange.client.nextId, request)
      let asking := { exchange with
        client := exchange.client.step .insert
        asked := exchange.asked ++ [envelope] }
      match envelopes.encodeEnvelope envelope with
      | .ok _ => { asking with requests := exchange.requests ++ [envelope] }
      | .error _ => { asking with failed := exchange.failed ++ [envelope.1] }
  | .respond index response => match exchange.requests[index]? with
    | none => exchange
    | some (id, _) =>
      let handled := { exchange with requests := exchange.requests.eraseIdx index }
      match messages.encodeServerMessage (id, response) with
      | .ok frame => { handled with
          stream := exchange.stream ++ frame
          answers := exchange.answers ++ [(id, response)] }
      | .error _ => { handled with failed := exchange.failed ++ [id] }
  | .read =>
    if exchange.client.reader = .reading then
      match Codec.readFrame none exchange.stream with
      | .error _ => exchange
      | .ok (payload, stream) =>
        let past := { exchange with stream, answers := exchange.answers.tail }
        match messages.deserialize payload with
        | none => past
        | some (id, response) => { past with
            client := exchange.client.step (.respond id)
            received := if id ∈ exchange.client.pending then exchange.received ++ [(id, response)]
              else exchange.received }
    else exchange

def outstanding (exchange : Exchange Request Response) : List Nat :=
  exchange.requests.map Prod.fst ++ exchange.answers.map Prod.fst

/-- A handler gives an answer that it may give to its request, and its length can be written down.
-/
def Answers (handles : Nat × Request → Response → Prop) (exchange : Exchange Request Response) :
    Event Request Response → Prop
  | .respond index response => ∀ envelope ∈ exchange.requests[index]?,
      handles envelope response ∧ ∀ frame,
        messages.encodeServerMessage (envelope.1, response) = .ok frame →
        frame.length < 2 ^ 32 + 4
  | .client _ | .call _ | .read => True

/-- The stream holds the frames of the answers that were not read. -/
def Carried (exchange : Exchange Request Response) : Prop :=
  ∃ frames, Forall₂ (messages.encodeServerMessage · = .ok ·) exchange.answers frames ∧
    (∀ frame ∈ frames, frame.length < 2 ^ 32 + 4) ∧ exchange.stream = frames.flatten

/-- Every identifier is at one place, and a client that reads waits for those not received. -/
structure Placed (exchange : Exchange Request Response) : Prop where
  numbered : 0 :: exchange.asked.map Prod.fst = range exchange.client.nextId
  once : ∀ id, (exchange.outstanding ++ exchange.failed ++
    exchange.received.map Prod.fst).count id = (exchange.asked.map Prod.fst).count id
  pending : exchange.client.reader = .reading →
    ∀ id, id ∈ exchange.client.pending ↔ 0 < (exchange.outstanding ++ exchange.failed).count id

structure Answered (handles : Nat × Request → Response → Prop)
    (exchange : Exchange Request Response) : Prop where
  requests : ∀ envelope ∈ exchange.requests, envelope ∈ exchange.asked
  answers : ∀ answer ∈ exchange.answers ++ exchange.received,
    ∃ request, (answer.1, request) ∈ exchange.asked ∧ handles (answer.1, request) answer.2

variable {envelopes messages} {exchange next : Exchange Request Response}
  {handles : Nat × Request → Response → Prop}

theorem step_read (carried : exchange.Carried messages) :
    step envelopes messages exchange .read = exchange ∨
      exchange.client.reader = .reading ∧ ∃ answer rest stream,
        exchange.answers = answer :: rest ∧
        step envelopes messages exchange .read = { exchange with
          client := exchange.client.step (.respond answer.1)
          stream
          answers := rest
          received := if answer.1 ∈ exchange.client.pending then exchange.received ++ [answer]
            else exchange.received } ∧
        (step envelopes messages exchange .read).Carried messages := by
  obtain ⟨frames, encoded, fit, carries⟩ := carried
  simp only [step]
  split
  swap
  · exact .inl rfl
  next reading =>
  cases waiting : exchange.answers with
  | nil =>
    rw [waiting] at encoded
    cases encoded
    rw [carries]
    exact .inl rfl
  | cons answer rest =>
    rw [waiting] at encoded
    obtain ⟨frame, frames, first, others, rfl⟩ := forall₂_cons_left_iff.mp encoded
    rw [forall_mem_cons] at fit
    obtain ⟨payload, read, decoded⟩ := Codec.readFrame_frame first fit.1 frames.flatten
    rw [carries, flatten_cons, read]
    simp only [decoded, tail_cons]
    exact .inr ⟨reading, answer, rest, _, rfl, rfl, frames, others, fit.2, rfl⟩

theorem carried_step {event : Event Request Response} (carried : exchange.Carried messages)
    (honest : exchange.Answers messages handles event) :
    (step envelopes messages exchange event).Carried messages := by
  cases event with
  | client event => cases event <;> exact carried
  | call request =>
    simp only [step]
    split
    · exact carried
    · split <;> exact carried
  | respond index response =>
    simp only [step]
    split
    · exact carried
    · next found =>
      split
      · next frame encoded =>
        obtain ⟨frames, others, fit, carries⟩ := carried
        have short := (honest _ found).2 frame encoded
        refine ⟨frames ++ [frame], rel_append others (.cons encoded .nil), ?_, ?_⟩
        · rw [forall_mem_append]
          exact ⟨fit, forall_mem_singleton.mpr short⟩
        · rw [flatten_append, ← carries, flatten_singleton]
      · exact carried
  | read =>
    rcases step_read carried with same | ⟨_, _, _, _, _, _, carried⟩
    · rw [same]
      exact carried
    · exact carried

theorem client_step_of_ne {client : Client} {event : Client.Event} (notInsert : event ≠ .insert)
    (notRespond : ∀ id, event ≠ .respond id) :
    (client.step event).nextId = client.nextId ∧
      ((client.step event).reader = .reading →
        client.reader = .reading ∧ (client.step event).pending = client.pending) := by
  cases event with
  | insert => exact absurd rfl notInsert
  | respond id => exact absurd rfl (notRespond id)
  | subscribe => exact ⟨rfl, fun reading => ⟨reading, rfl⟩⟩
  | sendRequest | disconnect | clear =>
    simp only [Client.step]
    split
    · simp_all
    · exact ⟨rfl, fun reading => ⟨reading, rfl⟩⟩

theorem Placed.moves (placed : exchange.Placed) (client : next.client = exchange.client)
    (asked : next.asked = exchange.asked) (received : next.received = exchange.received)
    (counted : ∀ id, (next.outstanding ++ next.failed).count id =
      (exchange.outstanding ++ exchange.failed).count id) : next.Placed := by
  refine ⟨by rw [asked, client]; exact placed.numbered, fun id => ?_, fun reading id => ?_⟩
  · rw [count_append, counted, ← count_append, received, asked]
    exact placed.once id
  · rw [client] at reading ⊢
    rw [counted]
    exact placed.pending reading id

theorem Placed.calls (placed : exchange.Placed) (waits : exchange.client.calls ≠ 0)
    (client : next.client = exchange.client.step .insert)
    (asked : next.asked.map Prod.fst = exchange.asked.map Prod.fst ++ [exchange.client.nextId])
    (received : next.received = exchange.received)
    (counted : ∀ id, (next.outstanding ++ next.failed).count id =
      (exchange.outstanding ++ exchange.failed ++ [exchange.client.nextId]).count id) :
    next.Placed := by
  obtain ⟨calls, some⟩ := Nat.exists_eq_succ_of_ne_zero waits
  simp only [Client.step, some] at client
  refine ⟨?_, fun id => ?_, fun reading id => ?_⟩
  · rw [asked, client, range_succ, ← placed.numbered]
    rfl
  · have once := placed.once id
    have counted := counted id
    rw [asked, received]
    simp only [count_append] at once counted ⊢
    omega
  · rw [client] at reading ⊢
    rw [counted, count_append, Finset.mem_insert, placed.pending reading id, count_singleton]
    by_cases same : exchange.client.nextId = id
    · simp [same]
    · simp [same, Ne.symm same]

/-- An answer that is read is waited for, since it is not at another place as well. -/
theorem Placed.reads (placed : exchange.Placed) (reading : exchange.client.reader = .reading)
    {answer : Nat × Response} {rest : List (Nat × Response)} {stream : Bytes}
    (waiting : exchange.answers = answer :: rest) :
    Placed { exchange with
      client := exchange.client.step (.respond answer.1)
      stream
      answers := rest
      received := if answer.1 ∈ exchange.client.pending then exchange.received ++ [answer]
        else exchange.received } := by
  have ⟨numbered, once, pending⟩ := placed
  have distinct : (0 :: exchange.asked.map Prod.fst).Nodup := numbered ▸ nodup_range
  have atMostOne := nodup_iff_count_le_one.mp distinct.of_cons
  replace pending := pending reading
  simp only [outstanding, count_append, waiting, map_cons, count_cons] at once pending
  have waitedFor : answer.1 ∈ exchange.client.pending := (pending _).mpr (by
    rw [beq_self_eq_true, if_pos rfl]
    omega)
  refine ⟨?_, fun id => ?_, fun _ id => ?_⟩
  · simpa [Client.step, reading] using numbered
  · rw [if_pos waitedFor]
    simp only [outstanding, count_append, map_append, map_cons, map_nil, count_cons, count_nil]
    have counted := once id
    omega
  · have one := once id ▸ atMostOne id
    simp only [Client.step, if_pos reading, Finset.mem_erase, pending, outstanding, count_append]
    by_cases same : answer.1 = id
    · simp only [same, beq_self_eq_true, if_true] at one
      simp only [same, ne_eq, not_true, false_and, false_iff]
      omega
    · simp [same, Ne.symm same]

theorem placed_step (placed : exchange.Placed) (carried : exchange.Carried messages)
    (event : Event Request Response) : (step envelopes messages exchange event).Placed := by
  cases event with
  | client event =>
    have other (notInsert : event ≠ .insert) (notRespond : ∀ id, event ≠ .respond id) :
        Placed { exchange with client := exchange.client.step event } := by
      obtain ⟨same, keeps⟩ := @client_step_of_ne exchange.client event notInsert notRespond
      refine ⟨placed.numbered.trans (congrArg range same.symm), placed.once, fun reading id => ?_⟩
      obtain ⟨reading, table⟩ := keeps reading
      exact table ▸ placed.pending reading id
    cases event with
    | insert | respond => exact placed
    | sendRequest | subscribe | disconnect | clear =>
      exact other (fun same => nomatch same) fun _ same => nomatch same
  | call request =>
    simp only [step]
    split
    · exact placed
    · next waits =>
      split
      · refine placed.calls waits rfl map_append rfl fun id => ?_
        simp only [outstanding, map_append, count_append, map_cons, map_nil]
        omega
      · refine placed.calls waits rfl map_append rfl fun id => ?_
        simp only [outstanding, count_append]
        omega
  | respond index response =>
    simp only [step]
    split
    · exact placed
    · next found =>
      obtain ⟨bound, same⟩ := List.getElem?_eq_some_iff.mp found
      have moved := (same ▸ (getElem_cons_eraseIdx_perm bound).map Prod.fst).count_eq
      split
      · refine placed.moves rfl rfl rfl fun id => ?_
        simp only [outstanding, count_append, map_append, ← moved id, map_cons, map_nil, count_cons,
          count_nil]
        omega
      · refine placed.moves rfl rfl rfl fun id => ?_
        simp only [outstanding, count_append, ← moved id, map_cons, count_cons, count_nil]
        omega
  | read =>
    rcases step_read carried with same | ⟨reading, answer, rest, stream, waiting, next, _⟩
    · rw [same]
      exact placed
    · rw [next]
      exact placed.reads reading waiting

theorem answered_step {event : Event Request Response} (answered : exchange.Answered handles)
    (carried : exchange.Carried messages) (honest : exchange.Answers messages handles event) :
    (step envelopes messages exchange event).Answered handles := by
  have ⟨requests, answers⟩ := answered
  cases event with
  | client event => cases event <;> exact ⟨requests, answers⟩
  | call request =>
    have before {answer : Nat × Response}
        (member : answer ∈ exchange.answers ++ exchange.received) :
        ∃ made, (answer.1, made) ∈ exchange.asked ++ [(exchange.client.nextId, request)] ∧
          handles (answer.1, made) answer.2 := by
      obtain ⟨made, asked, handled⟩ := answers answer member
      exact ⟨made, mem_append_left _ asked, handled⟩
    simp only [step]
    split
    · exact answered
    · split
      · refine ⟨fun envelope member => ?_, fun answer => before⟩
        rcases mem_append.mp member with old | new
        · exact mem_append_left _ (requests envelope old)
        · exact mem_append_right _ new
      · exact ⟨fun envelope member => mem_append_left _ (requests envelope member),
          fun answer => before⟩
  | respond index response =>
    simp only [step]
    split
    · exact answered
    · next id request found =>
      have remaining (envelope) (member : envelope ∈ exchange.requests.eraseIdx index) :
          envelope ∈ exchange.asked := requests envelope (mem_of_mem_eraseIdx member)
      split
      · refine ⟨remaining, fun answer member => ?_⟩
        simp only [mem_append, mem_singleton] at member
        rcases member with (old | rfl) | old
        · exact answers answer (mem_append_left _ old)
        · exact ⟨request, requests _ (mem_of_getElem? found), (honest _ found).1⟩
        · exact answers answer (mem_append_right _ old)
      · exact ⟨remaining, answers⟩
  | read =>
    rcases step_read carried with same | ⟨_, first, rest, stream, waiting, next, _⟩
    · rw [same]
      exact answered
    · rw [next]
      refine ⟨requests, fun answer member => answers answer ?_⟩
      rw [waiting]
      rcases mem_append.mp member with old | new
      · exact mem_append_left _ (mem_cons_of_mem _ old)
      · split_ifs at new
        · rcases mem_append.mp new with old | new
          · exact mem_append_right _ old
          · exact mem_append_left _ (mem_singleton.mp new ▸ mem_cons_self)
        · exact mem_append_right _ new

/-- If handlers give answers that they may give to their requests, and none that is too long, every
answer that a call gets is one to its own request. Every call is at exactly one place: it is not
answered yet, its request or its answer could not be encoded, or it has got its answer. A client
that reads waits for the answers to all calls of the first two kinds. -/
theorem calls_are_answered {events : List (Event Request Response)}
    (honest : Meets (step envelopes messages) (Answers messages handles) {} events) :
    let exchange := run (step envelopes messages) {} events
    (∀ answer ∈ exchange.received,
      ∃ request, (answer.1, request) ∈ exchange.asked ∧ handles (answer.1, request) answer.2) ∧
    (exchange.asked.map Prod.fst).Nodup ∧
    exchange.outstanding ++ exchange.failed ++ exchange.received.map Prod.fst ~
      exchange.asked.map Prod.fst ∧
    (exchange.client.reader = .reading →
      ∀ id, id ∈ exchange.client.pending ↔ id ∈ exchange.outstanding ++ exchange.failed) := by
  let Holds (exchange : Exchange Request Response) : Prop :=
    exchange.Carried messages ∧ exchange.Placed ∧ exchange.Answered handles
  have initial : Holds {} :=
    ⟨⟨[], .nil, by simp, rfl⟩, ⟨rfl, fun _ => rfl, by simp [outstanding]⟩, by simp, by simp⟩
  obtain ⟨_, placed, answered⟩ : Holds (run (step envelopes messages) {} events) := by
    refine invariant (fun exchange event holds honest => ?_) honest initial
    obtain ⟨carried, placed, answered⟩ := holds
    exact ⟨carried_step carried honest, placed_step placed carried event,
      answered_step answered carried honest⟩
  have distinct : (0 :: _).Nodup := placed.numbered ▸ nodup_range
  exact ⟨fun answer member => answered.answers answer (mem_append_right _ member),
    distinct.of_cons, perm_iff_count.mpr placed.once,
    fun reading id => (placed.pending reading id).trans count_pos_iff⟩

/-- Two calls, the second one answered first. -/
def overtaking : List (Event Unit Unit) :=
  [.client .sendRequest, .client .sendRequest, .call (), .call (), .respond 1 (), .read,
    .respond 0 (), .read]

theorem overtaking_calls_are_answered :
    (run (step .pings .pongs) {} overtaking).received = [(2, ()), (1, ())] ∧
      ((run (step .pings .pongs) {} overtaking).asked.map Prod.fst).Nodup := by
  have short {message : Nat × Unit} {frame : Bytes}
      (encoded : Codec.pongs.encodeServerMessage message = .ok frame) :
      frame.length < 2 ^ 32 + 4 := by
    obtain ⟨payload, serialized, _, rfl⟩ := Codec.encode_eq_ok encoded
    simp only [Codec.pongs, Codec.numbered] at serialized
    split_ifs at serialized
    cases serialized
    simp [toBeBytes, Codec.toLeBytes]
  have each (exchange : Exchange Unit Unit) (event : Event Unit Unit) :
      exchange.Answers .pongs (fun _ _ => True) event := by
    cases event with
    | respond => exact fun _ _ => ⟨trivial, fun _ => short⟩
    | client | call | read => trivial
  have honest : Meets (step .pings .pongs) (Answers .pongs fun _ _ => True) {} overtaking := by
    simp [overtaking, Meets, each]
  exact ⟨by decide +kernel, (calls_are_answered honest).2.1⟩

end Exchange

end Kepler
