import Mathlib.Tactic.SplitIfs
import PoolConsole.Json.Parser
import PoolConsole.Json.Printer

namespace PoolConsole.Json

theorem hexValue?_digitChar : ∀ d < 16, Text.hexValue? (Nat.digitChar d) = some d := by
  decide

theorem hexFour?_hex {n : Nat} (fits : n < 0x10000) (rest : List Char) :
    hexFour? (Text.hex 4 n ++ rest) = some (n, rest) := by
  have digit (k : Nat) := hexValue?_digitChar (k % 16) (Nat.mod_lt k (by decide))
  simp only [Text.hex, List.nil_append, List.cons_append, hexFour?, digit, Option.some.injEq,
    Prod.mk.injEq, and_true]
  omega

theorem unicodeEscape?_hex {n : Nat} (fits : n < 0xD800) (rest : List Char) :
    unicodeEscape? (Text.hex 4 n ++ rest) = some (Char.ofNat n, rest) := by
  have below : ¬ (0xD800 ≤ n ∧ n ≤ 0xDBFF) := by omega
  have below' : ¬ (0xDC00 ≤ n ∧ n ≤ 0xDFFF) := by omega
  rw [unicodeEscape?, hexFour?_hex (by omega)]
  exact (if_neg below).trans (if_neg below')

/-- A character is written as it is, or as a backslash and something that stands for it. -/
theorem escape_cases (c : Char) :
    (escape c = [c] ∧ c ≠ '"' ∧ c ≠ '\\' ∧ ¬ c.toNat < 0x20) ∨
      ∃ tail, escape c = '\\' :: tail ∧ ∀ rest, escaped? (tail ++ rest) = some (c, rest) := by
  have control {code : Nat} {tail : List Char} (is : c.toNat = code)
      (stands : ∀ rest, escaped? (tail ++ rest) = some (Char.ofNat code, rest)) (rest : List Char) :
      escaped? (tail ++ rest) = some (c, rest) := by
    rw [stands, ← is, Char.ofNat_toNat]
  unfold escape
  split_ifs with quote backslash visible newline return' tab backspace feed
  · exact .inr ⟨['"'], rfl, fun _ => by rw [quote]; rfl⟩
  · exact .inr ⟨['\\'], rfl, fun _ => by rw [backslash]; rfl⟩
  · exact .inl ⟨rfl, quote, backslash, Nat.not_lt.mpr visible⟩
  · exact .inr ⟨['n'], rfl, fun _ => by rw [newline]; rfl⟩
  · exact .inr ⟨['r'], rfl, fun _ => by rw [return']; rfl⟩
  · exact .inr ⟨['t'], rfl, fun _ => by rw [tab]; rfl⟩
  · exact .inr ⟨_, rfl, control backspace fun _ => rfl⟩
  · exact .inr ⟨_, rfl, control feed fun _ => rfl⟩
  · exact .inr ⟨_, rfl, control rfl fun rest => unicodeEscape?_hex (by omega) rest⟩

theorem stringBody?_escape (fuel : Nat) (c : Char) (rest : List Char) :
    stringBody? (fuel + 1) (escape c ++ rest) =
      (stringBody? fuel rest).map fun (s, rest) => (c :: s, rest) := by
  rcases escape_cases c with ⟨plain, quote, backslash, visible⟩ | ⟨tail, written, stands⟩
  · rw [plain, List.singleton_append, stringBody?, if_neg visible]
    · exact quote
    · exact backslash
  · rw [written, List.cons_append, stringBody?, stands, Option.bind_some]

theorem stringBody?_flatMap_escape {cs : List Char} {fuel : Nat} (enough : cs.length < fuel)
    (rest : List Char) : stringBody? fuel (cs.flatMap escape ++ '"' :: rest) = some (cs, rest) := by
  induction cs generalizing fuel with
  | nil =>
    obtain ⟨fuel, rfl⟩ := Nat.exists_eq_add_one_of_ne_zero (Nat.ne_of_gt enough)
    rfl
  | cons c cs ih =>
    obtain ⟨fuel, rfl⟩ := Nat.exists_eq_add_one_of_ne_zero (Nat.ne_of_gt (Nat.zero_lt_of_lt enough))
    have body := ih (Nat.lt_of_succ_lt_succ enough)
    rw [List.flatMap_cons, List.append_assoc, stringBody?_escape, body, Option.map_some]

theorem length_le_flatMap_escape (cs : List Char) : cs.length ≤ (cs.flatMap escape).length := by
  induction cs with
  | nil => exact Nat.le_refl 0
  | cons c cs ih =>
    have written : 0 < (escape c).length := by
      rcases escape_cases c with ⟨plain, -⟩ | ⟨tail, written, -⟩
      · rw [plain]
        exact Nat.one_pos
      · rw [written]
        exact Nat.succ_pos _
    rw [List.flatMap_cons, List.length_append, List.length_cons]
    omega

theorem string?_escape (s : String) (rest : List Char) :
    string? (s.toList.flatMap escape ++ '"' :: rest) = some (s, rest) := by
  have enough : s.toList.length < (s.toList.flatMap escape ++ '"' :: rest).length + 1 := by
    have := length_le_flatMap_escape s.toList
    rw [List.length_append]
    omega
  rw [string?, stringBody?_flatMap_escape enough]
  exact congrArg (fun read => some (read, rest)) String.ofList_toList

theorem quoted_append (s : String) (rest : List Char) :
    quoted s ++ rest = '"' :: (s.toList.flatMap escape ++ '"' :: rest) := by
  simp [quoted]

theorem value?_quoted (fuel depth : Nat) (s : String) (rest : List Char) :
    value? (fuel + 1) depth (quoted s ++ rest) = some (.string s, rest) := by
  have first (tail : List Char) : skipSpace ('"' :: tail) = '"' :: tail := rfl
  rw [quoted_append, value?, first]
  exact congrArg (Option.map _) (string?_escape s rest)

end PoolConsole.Json
