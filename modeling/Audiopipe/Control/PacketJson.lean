import Audiopipe.Control.Messages
import Audiopipe.Foundation.TextFormats

/-!
# The JSON texts of the control messages

What the framing of the control connection relies on of `serde_json` is
`SerdeJson.Lawful`.  The texts themselves are given as formats: the derived
serializers write an enumeration as its variant's name, with the payload in an
object of one field or, for several values, in an array.  The formats read the
compact texts only, and their numbers are not bounded by the machine word.
-/

namespace Audiopipe.Control.PacketJson

open Audiopipe.Foundation.ByteFormats
open Audiopipe.Foundation.ByteFormats.ByteFormat
open Audiopipe.Foundation.TextFormats
open Audiopipe.Mixing.TrackSelector
open Audiopipe.Streamer.PacketFormat
open Audiopipe.Streamer.ReceiveLoop
open Audiopipe.Control.Messages

/-! ## What is assumed of the serializer -/

/-- `serde_json::to_vec` and `serde_json::from_slice` at one type. -/
structure SerdeJson (T : Type) where
  toVec : T → List UInt8
  fromSlice : List UInt8 → Option T

/-- Blank, tab, line feed and carriage return. -/
def isWhitespace (byte : UInt8) : Bool :=
  byte == 32 || byte == 9 || byte == 10 || byte == 13

/--
Reading undoes writing, and neither a strict prefix of a text nor a text with
something other than white space behind it is read.  A text begins with
something other than white space.
-/
structure SerdeJson.Lawful {T : Type} (serde : SerdeJson T) : Prop where
  fromSlice_toVec :
    ∀ packet, serde.fromSlice (serde.toVec packet) = some packet
  fromSlice_strict_prefix :
    ∀ packet (front back : List UInt8),
      serde.toVec packet = front ++ back →
        back ≠ [] → serde.fromSlice front = none
  fromSlice_trailing :
    ∀ packet (extra : List UInt8) (byte : UInt8),
      byte ∈ extra → isWhitespace byte = false →
        serde.fromSlice (serde.toVec packet ++ extra) = none
  toVec_compact :
    ∀ packet, ∃ byte rest,
      serde.toVec packet = byte :: rest ∧ isWhitespace byte = false

/-! ## The texts -/

def mixerTrackSelectorFormat : ByteFormat MixerTrackSelector :=
  ((tagged (ascii "\x7b\"Mono\":") (decimalUntil 125 (by decide))).either
    (tagged (ascii "\x7b\"Stereo\":[")
      ((decimalUntil 44 (by decide)).pair
        (followed (decimalUntil 93 (by decide)) (ascii "\x7d"))))
    (disjoint_of_apart (by decide) (startsWith_tagged _ _)
      (startsWith_tagged _ _))).mapped
    (fun
      | .mono c => .inl c
      | .stereo l r => .inr (l, r))
    (fun
      | .inl c => some (.mono c)
      | .inr (l, r) => some (.stereo l r))
    (fun sel => by cases sel <;> rfl)

/-- The sixteen bytes as hexadecimal digits, hyphenated and quoted. -/
def uuidTextFormat : ByteFormat Uuid :=
  (tagged [34]
    (followed
      ((hexBlock 4).pair
        (tagged [45]
          ((hexBlock 2).pair
            (tagged [45]
              ((hexBlock 2).pair
                (tagged [45]
                  ((hexBlock 2).pair
                    (tagged [45] (hexBlock 6)))))))))
      [34])).mapped
    (fun id =>
      (⟨id.bytes.take 4, by simp [id.sized]⟩,
        ⟨(id.bytes.drop 4).take 2, by simp [id.sized]⟩,
        ⟨(id.bytes.drop 6).take 2, by simp [id.sized]⟩,
        ⟨(id.bytes.drop 8).take 2, by simp [id.sized]⟩,
        ⟨id.bytes.drop 10, by simp [id.sized]⟩))
    (fun parts =>
      some
        { bytes :=
            parts.1.val ++ parts.2.1.val ++ parts.2.2.1.val ++
              parts.2.2.2.1.val ++ parts.2.2.2.2.val
          sized := by
            simp [parts.1.property, parts.2.1.property,
              parts.2.2.1.property, parts.2.2.2.1.property,
              parts.2.2.2.2.property] })
    (fun id => by
      rcases id with ⟨bytes, sized⟩
      have whole :
          bytes.take 4 ++ (bytes.drop 4).take 2 ++
                (bytes.drop 6).take 2 ++ (bytes.drop 8).take 2 ++
              bytes.drop 10 =
            bytes := by
        rw [← List.take_add, ← List.take_add, ← List.take_add,
          List.take_append_drop]
      simp only [whole])

def udpServerHandleErrorFormat : ByteFormat UdpServerHandleError :=
  ((tagged (ascii "\x7b\"TokioError\":")
      (followed quotedString (ascii "\x7d"))).either
    ((literal (ascii "\"CastingError\"")).either
      (literal (ascii "\"SerializationError\""))
      (disjoint_of_apart (by decide) (startsWith_literal _)
        (startsWith_literal _)))
    (disjoint_either
      (disjoint_of_apart (by decide) (startsWith_tagged _ _)
        (startsWith_literal _))
      (disjoint_of_apart (by decide) (startsWith_tagged _ _)
        (startsWith_literal _)))).mapped
    (fun
      | .tokioError error => .inl error
      | .castingError => .inr (.inl ())
      | .serializationError => .inr (.inr ()))
    (fun
      | .inl error => some (.tokioError error)
      | .inr (.inl ()) => some .castingError
      | .inr (.inr ()) => some .serializationError)
    (fun error => by cases error <;> rfl)

def controlErrorFormat : ByteFormat ControlError :=
  ((tagged (ascii "\x7b\"AudioStreamError\":")
      (followed udpServerHandleErrorFormat (ascii "\x7d"))).either
    ((literal (ascii "\"GeneralError\"")).either
      (literal (ascii "\"StreamIdNotFound\""))
      (disjoint_of_apart (by decide) (startsWith_literal _)
        (startsWith_literal _)))
    (disjoint_either
      (disjoint_of_apart (by decide) (startsWith_tagged _ _)
        (startsWith_literal _))
      (disjoint_of_apart (by decide) (startsWith_tagged _ _)
        (startsWith_literal _)))).mapped
    (fun
      | .audioStreamError error => .inl error
      | .generalError => .inr (.inl ())
      | .streamIdNotFound => .inr (.inr ()))
    (fun
      | .inl error => some (.audioStreamError error)
      | .inr (.inl ()) => some .generalError
      | .inr (.inr ()) => some .streamIdNotFound)
    (fun error => by cases error <;> rfl)

def controlRequestFormat : ByteFormat ControlRequest :=
  ((tagged (ascii "\x7b\"OpenStream\":")
      (followed mixerTrackSelectorFormat (ascii "\x7d"))).either
    (tagged (ascii "\x7b\"CloseStream\":")
      (followed uuidTextFormat (ascii "\x7d")))
    (disjoint_of_apart (by decide) (startsWith_tagged _ _)
      (startsWith_tagged _ _))).mapped
    (fun
      | .openStream sel => .inl sel
      | .closeStream streamId => .inr streamId)
    (fun
      | .inl sel => some (.openStream sel)
      | .inr streamId => some (.closeStream streamId))
    (fun request => by cases request <;> rfl)

/-- A port is a number below 65536; others are refused. -/
def portFormat : ByteFormat UInt16 :=
  (decimalUntil 44 (by decide)).mapped
    (fun port => port.toNat)
    (fun number =>
      if number < 65536 then some (UInt16.ofNat number) else none)
    (fun port => by
      have small : port.toNat < 65536 := port.toNat_lt
      simp [small])

def controlResponseFormat : ByteFormat ControlResponse :=
  ((tagged (ascii "\x7b\"Stream\":[")
      ((followed uuidTextFormat [44]).pair
        (portFormat.pair
          ((decimalUntil 44 (by decide)).pair
            (followed (decimalUntil 93 (by decide)) (ascii "\x7d")))))).either
    ((tagged (ascii "\x7b\"Error\":")
        (followed controlErrorFormat (ascii "\x7d"))).either
      (literal (ascii "\"Ok\""))
      (disjoint_of_apart (by decide) (startsWith_tagged _ _)
        (startsWith_literal _)))
    (disjoint_either
      (disjoint_of_apart (by decide) (startsWith_tagged _ _)
        (startsWith_tagged _ _))
      (disjoint_of_apart (by decide) (startsWith_tagged _ _)
        (startsWith_literal _)))).mapped
    (fun
      | .stream id port bufferSize sampleRate =>
          .inl (id, port, bufferSize, sampleRate)
      | .error error => .inr (.inl error)
      | .ok => .inr (.inr ()))
    (fun
      | .inl (id, port, bufferSize, sampleRate) =>
          some (.stream id port bufferSize sampleRate)
      | .inr (.inl error) => some (.error error)
      | .inr (.inr ()) => some .ok)
    (fun response => by cases response <;> rfl)

/-! ## The serializer -/

/-- The serializer of a format; white space after a text is ignored. -/
def jsonOf {T : Type} (format : ByteFormat T) : SerdeJson T where
  toVec := format.encode
  fromSlice := fun bytes =>
    (format.decode bytes).bind fun found =>
      if found.2.all isWhitespace then some found.1 else none

/-- Both laws of a format and a visible start make a lawful serializer. -/
theorem jsonOf_lawful {T : Type} {format : ByteFormat T}
    (compact :
      ∀ packet, ∃ byte rest,
        format.encode packet = byte :: rest ∧ isWhitespace byte = false) :
    (jsonOf format).Lawful where
  fromSlice_toVec := by
    intro packet
    simp [jsonOf]
  fromSlice_strict_prefix := by
    intro packet front back whole cut
    have unreadable := format.decode_strict_prefix whole cut
    simp [jsonOf, unreadable]
  fromSlice_trailing := by
    intro packet extra byte member visible
    simp only [jsonOf, format.decode_encode, Option.bind_some]
    refine if_neg fun blank => ?_
    have hidden := List.all_eq_true.mp blank byte member
    rw [visible] at hidden
    cases hidden
  toVec_compact := compact

def controlRequestJson : SerdeJson ControlRequest :=
  jsonOf controlRequestFormat

def controlResponseJson : SerdeJson ControlResponse :=
  jsonOf controlResponseFormat

theorem controlRequestJson_lawful : controlRequestJson.Lawful := by
  refine jsonOf_lawful fun packet => ?_
  cases packet with
  | openStream sel => exact ⟨123, _, rfl, by decide⟩
  | closeStream streamId => exact ⟨123, _, rfl, by decide⟩

theorem controlResponseJson_lawful : controlResponseJson.Lawful := by
  refine jsonOf_lawful fun packet => ?_
  cases packet with
  | stream id port bufferSize sampleRate =>
      exact ⟨123, _, rfl, by decide⟩
  | ok => exact ⟨34, _, rfl, by decide⟩
  | error error => exact ⟨123, _, rfl, by decide⟩

example :
    controlRequestJson.toVec (.openStream (.stereo 0 1)) =
      ascii "\x7b\"OpenStream\":\x7b\"Stereo\":[0,1]\x7d\x7d" := by
  decide

end Audiopipe.Control.PacketJson
