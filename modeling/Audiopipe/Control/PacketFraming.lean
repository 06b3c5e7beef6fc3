import Audiopipe.Control.PacketJson

/-!
# The framing of the control connection

`send_packet` writes the text of a message with `write_all` and nothing
around it.  `read_packet` makes a single `read` and takes what that read
returned as one message.  A sequence of messages therefore arrives as it was
sent exactly when every read happens to return one whole text.
-/

namespace Audiopipe.Control.PacketFraming

open Audiopipe.Control.Messages
open Audiopipe.Control.PacketJson

variable {T : Type}

/-! ## Sending and reading -/

/-- The bytes that `send_packet` writes. -/
def sendPacket (serde : SerdeJson T) (packet : T) : List UInt8 :=
  serde.toVec packet

/-- The bytes of the connection after a sequence of packets. -/
def sent (serde : SerdeJson T) (packets : List T) : List UInt8 :=
  (packets.map (sendPacket serde)).flatten

/--
`read_packet`, when the read returns `chunk`: the result and the buffer, whose
bytes behind the chunk are those of earlier reads.
-/
def readPacket (serde : SerdeJson T) (buf chunk : List UInt8) :
    Except PacketError T × List UInt8 :=
  let n := chunk.length
  let filled := chunk ++ buf.drop n
  let data := filled.take n
  match serde.fromSlice data with
  | some json => (.ok json, filled)
  | none => (.error .serdeError, filled)

/--
A loop that reads packets into one buffer.  It ends with the first error, and
after a packet for which `proceeds` does not hold.
-/
def readPackets (serde : SerdeJson T) (proceeds : T → Bool) :
    List UInt8 → List (List UInt8) → List (Except PacketError T)
  | _, [] => []
  | buf, chunk :: rest =>
      match readPacket serde buf chunk with
      | (.ok packet, filled) =>
          .ok packet ::
            if proceeds packet then
              readPackets serde proceeds filled rest
            else
              []
      | (.error e, _) => [.error e]

/-- The reads of `handle_connection`, which goes on after every request. -/
def handleConnectionReads (serde : SerdeJson ControlRequest)
    (chunks : List (List UInt8)) :
    List (Except PacketError ControlRequest) :=
  readPackets serde (fun _ => true) (List.replicate 8196 0) chunks

/-- The loop of `tcp_client` goes on only after a stream response. -/
def clientProceeds : ControlResponse → Bool
  | .stream _ _ _ _ => true
  | _ => false

/-- The reads of `tcp_client`. -/
def tcpClientReads (serde : SerdeJson ControlResponse)
    (chunks : List (List UInt8)) :
    List (Except PacketError ControlResponse) :=
  readPackets serde clientProceeds (List.replicate 1024 0) chunks

/-- A way to cut a byte stream into reads of at most `bound` bytes. -/
structure Segmentation (bound : ℕ) (stream : List UInt8)
    (chunks : List (List UInt8)) : Prop where
  whole : chunks.flatten = stream
  nonempty : ∀ chunk ∈ chunks, chunk ≠ []
  bounded : ∀ chunk ∈ chunks, chunk.length ≤ bound

/-! ## One read -/

/-- Earlier reads leave no trace in the result. -/
theorem readPacket_result
    (serde : SerdeJson T) (buf chunk : List UInt8) :
    (readPacket serde buf chunk).1 =
      match serde.fromSlice chunk with
      | some json => .ok json
      | none => .error .serdeError := by
  simp only [readPacket, List.take_left']
  cases serde.fromSlice chunk with
  | none => rfl
  | some json => rfl

/-- The first packet of a stream is read from its own text only. -/
theorem fromSlice_first
    {serde : SerdeJson T} (lawful : serde.Lawful)
    {packet : T} {packets : List T} {chunk following : List UInt8}
    (whole : chunk ++ following = sent serde (packet :: packets))
    (different : chunk ≠ serde.toVec packet) :
    serde.fromSlice chunk = none := by
  change chunk ++ following = serde.toVec packet ++ sent serde packets
    at whole
  rcases List.append_eq_append_iff.mp whole with
    ⟨missing, text, _⟩ | ⟨extra, text, next⟩
  · refine lawful.fromSlice_strict_prefix packet chunk missing text ?_
    rintro rfl
    exact different (by rw [text, List.append_nil])
  · cases packets with
    | nil =>
        have nothing : extra = [] :=
          (List.append_eq_nil_iff.mp next.symm).1
        exact (different (by rw [text, nothing, List.append_nil])).elim
    | cons second packets =>
        cases extra with
        | nil => exact (different (by rw [text, List.append_nil])).elim
        | cons byte extra =>
            rcases lawful.toVec_compact second with
              ⟨first, rest, starts, visible⟩
            have next :
                serde.toVec second ++ sent serde packets =
                  (byte :: extra) ++ following :=
              next
            rw [starts] at next
            have same : first = byte := (List.cons.inj next).1
            rw [text]
            exact
              lawful.fromSlice_trailing packet (byte :: extra) byte
                (List.mem_cons_self ..) (same ▸ visible)

/-! ## Whole loops -/

/-- No bytes, no reads. -/
theorem chunks_eq_nil
    {chunks : List (List UInt8)} (whole : chunks.flatten = [])
    (nonempty : ∀ chunk ∈ chunks, chunk ≠ []) :
    chunks = [] := by
  cases chunks with
  | nil => rfl
  | cons chunk rest =>
      have nothing : chunk = [] := (List.append_eq_nil_iff.mp whole).1
      exact (nonempty chunk (List.mem_cons_self ..) nothing).elim

/-- A read that parses is followed by the other reads, if the loop goes on. -/
theorem readPackets_of_parsed
    {serde : SerdeJson T} {proceeds : T → Bool}
    {buf chunk : List UInt8} {json : T}
    (parsed : serde.fromSlice chunk = some json)
    (rest : List (List UInt8)) :
    readPackets serde proceeds buf (chunk :: rest) =
      .ok json ::
        if proceeds json then
          readPackets serde proceeds (readPacket serde buf chunk).2 rest
        else
          [] := by
  have result := readPacket_result serde buf chunk
  rw [parsed] at result
  rw [readPackets]
  split
  · next found filled read =>
      rw [read] at result ⊢
      cases result
      rfl
  · next e filled read =>
      rw [read] at result
      cases result

/-- A read that does not parse ends the loop. -/
theorem readPackets_of_rejected
    {serde : SerdeJson T} {proceeds : T → Bool}
    {buf chunk : List UInt8}
    (rejected : serde.fromSlice chunk = none)
    (rest : List (List UInt8)) :
    readPackets serde proceeds buf (chunk :: rest) =
      [.error .serdeError] := by
  have result := readPacket_result serde buf chunk
  rw [rejected] at result
  rw [readPackets]
  split
  · next found filled read =>
      rw [read] at result
      cases result
  · next e filled read =>
      rw [read] at result
      cases result
      rfl

/--
The read loop returns the packets that were sent exactly when every read
returned one whole text and the loop went on after all packets but the last.
-/
theorem readPackets_eq_iff
    {serde : SerdeJson T} (lawful : serde.Lawful) (proceeds : T → Bool)
    (buf : List UInt8) {packets : List T} {chunks : List (List UInt8)}
    (whole : chunks.flatten = sent serde packets)
    (nonempty : ∀ chunk ∈ chunks, chunk ≠ []) :
    readPackets serde proceeds buf chunks = packets.map .ok ↔
      chunks = packets.map serde.toVec ∧
        ∀ packet ∈ packets.dropLast, proceeds packet = true := by
  induction packets generalizing buf chunks with
  | nil =>
      cases chunks with
      | nil => simp [readPackets]
      | cons chunk rest =>
          cases chunks_eq_nil whole nonempty
  | cons packet packets induction =>
      cases chunks with
      | nil => simp [readPackets]
      | cons chunk rest =>
          by_cases text : chunk = serde.toVec packet
          · subst text
            have wholeRest : rest.flatten = sent serde packets :=
              List.append_cancel_left whole
            have nonemptyRest : ∀ chunk ∈ rest, chunk ≠ [] :=
              fun chunk member =>
                nonempty chunk (List.mem_cons_of_mem _ member)
            have remaining :=
              induction (readPacket serde buf (serde.toVec packet)).2
                wholeRest nonemptyRest
            rw [readPackets_of_parsed (lawful.fromSlice_toVec packet),
              List.map_cons, List.map_cons]
            cases packets with
            | nil =>
                have noMore : rest = [] :=
                  chunks_eq_nil wholeRest nonemptyRest
                subst noMore
                simp [readPackets]
            | cons second more =>
                rw [List.dropLast_cons_cons]
                by_cases goesOn : proceeds packet = true
                · rw [if_pos goesOn, List.cons.injEq, List.cons.injEq,
                    remaining, List.forall_mem_cons]
                  simp [goesOn]
                · simp [goesOn]
          · rw [readPackets_of_rejected (fromSlice_first lawful whole text)]
            simp [text]

/--
The framing is lossless exactly when the reads are the texts of the messages:
then `handle_connection` reads the requests that were sent, and `tcp_client`
the responses, up to the first that ends its loop.
-/
theorem framing_lossless_iff
    {requestSerde : SerdeJson ControlRequest}
    {responseSerde : SerdeJson ControlResponse}
    (requestLawful : requestSerde.Lawful)
    (responseLawful : responseSerde.Lawful) :
    (∀ (requests : List ControlRequest) (chunks : List (List UInt8)),
        Segmentation 8196 (sent requestSerde requests) chunks →
          (handleConnectionReads requestSerde chunks =
              requests.map .ok ↔
            chunks = requests.map (sendPacket requestSerde))) ∧
      ∀ (responses : List ControlResponse) (chunks : List (List UInt8)),
        Segmentation 1024 (sent responseSerde responses) chunks →
          (tcpClientReads responseSerde chunks = responses.map .ok ↔
            chunks = responses.map (sendPacket responseSerde) ∧
              ∀ response ∈ responses.dropLast,
                clientProceeds response = true) := by
  constructor
  · intro requests chunks segmentation
    refine
      (readPackets_eq_iff requestLawful (fun _ => true) _
        segmentation.whole segmentation.nonempty).trans ?_
    exact and_iff_left fun _ _ => rfl
  · intro responses chunks segmentation
    exact
      readPackets_eq_iff responseLawful clientProceeds _
        segmentation.whole segmentation.nonempty

/-- The law for the texts of the program, at one request in one read. -/
theorem framing_lossless_iff_one_read :
    handleConnectionReads controlRequestJson
        [sendPacket controlRequestJson (.openStream (.stereo 0 1))] =
      [.ok (.openStream (.stereo 0 1))] := by
  refine
    ((framing_lossless_iff controlRequestJson_lawful
      controlResponseJson_lawful).1 [.openStream (.stereo 0 1)] _
        ⟨rfl, ?_, ?_⟩).mpr rfl
  · intro chunk member
    rw [List.mem_singleton.mp member]
    decide
  · intro chunk member
    rw [List.mem_singleton.mp member]
    decide

/-- Two requests that one read returns together are both lost. -/
theorem coalesced_requests_rejected :
    ∃ (requests : List ControlRequest) (chunks : List (List UInt8)),
      Segmentation 8196 (sent controlRequestJson requests) chunks ∧
        handleConnectionReads controlRequestJson chunks ≠
          requests.map .ok := by
  refine
    ⟨[.openStream (.mono 0), .openStream (.mono 1)],
      [sent controlRequestJson [.openStream (.mono 0),
        .openStream (.mono 1)]], ⟨?_, ?_, ?_⟩, ?_⟩
  · exact List.flatten_singleton
  · intro chunk member
    rw [List.mem_singleton.mp member]
    decide
  · intro chunk member
    rw [List.mem_singleton.mp member]
    decide
  · decide +kernel

end Audiopipe.Control.PacketFraming
