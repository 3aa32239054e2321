import WorkflowWalk.Text.Point

/-!
# Decoding UTF-8

Bytes are read as characters, or the first fault is named together with the bytes it concerns: a
byte that starts no character, a byte that does not continue the character begun, or an end inside
a character.
-/

namespace WorkflowWalk
namespace Text
namespace Utf8

inductive Defect
  | startByte
  | continuationByte
  | earlyEnd
deriving DecidableEq, Repr

/-- A defect, the position of the first byte it concerns, that byte, and how many bytes it
concerns. -/
structure Fault where
  defect : Defect
  position : Nat
  byte : UInt8
  length : Nat
deriving DecidableEq, Repr

/-- What a byte announces as the start of a longer character: the bits it gives, how many bytes
follow, and between which bounds the first of them lies. -/
structure Lead where
  bits : Nat
  following : Nat
  low : UInt8
  high : UInt8

/-- The lead bytes of UTF-8; the bounds leave out overlong forms, surrogates and code points that
do not exist. -/
def lead? (byte : UInt8) : Option Lead :=
  let n := byte.toNat
  if 0xC2 ≤ n ∧ n ≤ 0xDF then some ⟨n - 0xC0, 1, 0x80, 0xBF⟩
  else if n = 0xE0 then some ⟨0, 2, 0xA0, 0xBF⟩
  else if n = 0xED then some ⟨0xD, 2, 0x80, 0x9F⟩
  else if 0xE1 ≤ n ∧ n ≤ 0xEF then some ⟨n - 0xE0, 2, 0x80, 0xBF⟩
  else if n = 0xF0 then some ⟨0, 3, 0x90, 0xBF⟩
  else if n = 0xF4 then some ⟨4, 3, 0x80, 0x8F⟩
  else if 0xF1 ≤ n ∧ n ≤ 0xF3 then some ⟨n - 0xF0, 3, 0x80, 0xBF⟩
  else none

def continues (byte : UInt8) : Bool :=
  0x80 ≤ byte && byte ≤ 0xBF

def payload (byte : UInt8) : Nat :=
  byte.toNat - 0x80

def decodeFrom (position : Nat) : List UInt8 → Except Fault (List Char)
  | [] => .ok []
  | first :: rest =>
      if first < 0x80 then
        (Char.ofNat first.toNat :: ·) <$> decodeFrom (position + 1) rest
      else
        match lead? first with
        | none => .error ⟨.startByte, position, first, 1⟩
        | some lead =>
            match rest with
            | [] => .error ⟨.earlyEnd, position, first, 1⟩
            | second :: rest =>
                let code := lead.bits * 64 + payload second
                if second < lead.low || lead.high < second then
                  .error ⟨.continuationByte, position, first, 1⟩
                else if lead.following = 1 then
                  (Char.ofNat code :: ·) <$> decodeFrom (position + 2) rest
                else
                  match rest with
                  | [] => .error ⟨.earlyEnd, position, first, 2⟩
                  | third :: rest =>
                      let code := code * 64 + payload third
                      if !continues third then
                        .error ⟨.continuationByte, position, first, 2⟩
                      else if lead.following = 2 then
                        (Char.ofNat code :: ·) <$> decodeFrom (position + 3) rest
                      else
                        match rest with
                        | [] => .error ⟨.earlyEnd, position, first, 3⟩
                        | fourth :: rest =>
                            let code := code * 64 + payload fourth
                            if !continues fourth then
                              .error ⟨.continuationByte, position, first, 3⟩
                            else
                              (Char.ofNat code :: ·) <$> decodeFrom (position + 4) rest

def decode (bytes : List UInt8) : Except Fault String :=
  ofChars <$> decodeFrom 0 bytes

/-! ## Wording -/

def Defect.message : Defect → String
  | .startByte => "invalid start byte"
  | .continuationByte => "invalid continuation byte"
  | .earlyEnd => "unexpected end of data"

def hexByte (byte : UInt8) : String :=
  String.ofList [Nat.digitChar (byte.toNat / 16), Nat.digitChar (byte.toNat % 16)]

/-- What is said of a fault: the byte itself if it concerns one byte, else the positions. -/
def Fault.message (fault : Fault) : String :=
  let place :=
    if fault.length = 1 then
      "byte 0x" ++ hexByte fault.byte ++ " in position " ++ toString fault.position
    else
      "bytes in position " ++ toString fault.position ++ "-" ++
        toString (fault.position + fault.length - 1)
  "'utf-8' codec can't decode " ++ place ++ ": " ++ fault.defect.message

end Utf8
end Text
end WorkflowWalk
