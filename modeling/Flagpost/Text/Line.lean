import Flagpost.Text.Utf8

/-!
# Flagpost — lines of bytes

Output and input come in lines. `Line.split?` takes the first complete line
off a byte sequence; bytes behind the last newline are no line yet.
-/

namespace Flagpost.Line

/-- The byte that ends a line. -/
def ending : UInt8 := 0x0A

/-- The first line, without its newline, and what follows it. -/
def split? : Bytes → Option (Bytes × Bytes)
  | [] => none
  | b :: rest =>
    if b = ending then some ([], rest)
    else (split? rest).map fun split => (b :: split.1, split.2)

theorem split?_length {bytes line rest : Bytes} (h : split? bytes = some (line, rest)) :
    rest.length < bytes.length := by
  induction bytes generalizing line with
  | nil => simp [split?] at h
  | cons b bytes ih =>
    simp only [split?] at h
    split at h
    · simp only [Option.some.injEq, Prod.mk.injEq] at h
      simp [h.2]
    · obtain ⟨⟨line', rest'⟩, hs, he⟩ := Option.map_eq_some_iff.1 h
      simp only [Prod.mk.injEq] at he
      have := ih (he.2 ▸ hs)
      simp only [List.length_cons]
      omega

end Flagpost.Line
