import DongleLink.Host.Files

/-!
# DongleLink.Host

The machine a command runs on, as far as it matters: its files, the working
directory and the environment variables.
-/

namespace DongleLink

/-- Environment variables; a value is any sequence of bytes. -/
structure Environment where
  bindings : List (String × List UInt8) := []
  deriving DecidableEq, Repr, Inhabited

/-- The text of bytes, if they are the encoding of one. -/
def textOfBytes? (bytes : List UInt8) : Option String := String.fromUTF8? ⟨bytes.toArray⟩

/-- The bytes of a text. -/
def bytesOfText (s : String) : List UInt8 := s.toUTF8.data.toList

/-- The value of a variable, if it is set to a text. -/
def Environment.get? (e : Environment) (name : String) : Option String :=
  (e.bindings.lookup name).bind textOfBytes?

/-- A machine. -/
structure Host where
  files : Host.Files := {}
  cwd : Host.Place := []
  environment : Environment := {}
  deriving DecidableEq, Repr, Inhabited

theorem textOfBytes?_bytesOfText (s : String) : textOfBytes? (bytesOfText s) = some s := by
  have h : (⟨(bytesOfText s).toArray⟩ : ByteArray) = s.toUTF8 := by
    simp [bytesOfText]
  unfold textOfBytes? String.fromUTF8?
  rw [h, String.toUTF8_eq_toByteArray, dif_pos s.isValidUTF8]
  rfl

end DongleLink
