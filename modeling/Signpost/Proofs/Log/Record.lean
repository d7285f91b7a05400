import Mathlib.Tactic.IntervalCases
import Signpost.Log.Record
set_option autoImplicit false

/-!
# Which events have a record

An event can be left out of a file for one of two reasons: it has no line, or its line has a
character that the file's encoding does not have.  The second concerns lines to read only
(`isSome_bytes?_iff`), because an object on one line is written in ASCII whatever is in it
(`Json.isAscii_render`), and every encoding has that.

Nothing that this program notes is refused for its fields (`fault?_notice`).
-/

namespace Signpost

open Text

/-- A text of ASCII characters. -/
def Text.IsAscii (t : Text) : Prop := ∀ c ∈ t, c.toNat < 0x80

namespace Text

variable {s t : Text}

theorem isAscii_cons {c : Char} : IsAscii (c :: t) ↔ c.toNat < 0x80 ∧ IsAscii t :=
  List.forall_mem_cons

theorem isAscii_append : IsAscii (s ++ t) ↔ IsAscii s ∧ IsAscii t := List.forall_mem_append

theorem isAscii_joinWith {sep : Text} {ts : List Text} (hsep : IsAscii sep)
    (h : ∀ t ∈ ts, IsAscii t) : IsAscii (joinWith sep ts) := by
  induction ts using joinWith.induct with
  | case1 => simp [joinWith, IsAscii]
  | case2 t => simpa [joinWith] using h
  | case3 t ts hne ih =>
    obtain ⟨ht, hts⟩ := List.forall_mem_cons.mp h
    rw [joinWith]
    · exact isAscii_append.mpr ⟨isAscii_append.mpr ⟨ht, hsep⟩, ih hts⟩
    · exact hne

theorem toNat_digitChar_lt {d : Nat} (h : d < 16) : (Nat.digitChar d).toNat < 0x80 := by
  interval_cases d <;> decide

theorem isAscii_toDigits {base : Nat} (hone : 1 < base) (hbase : base ≤ 16) (n : Nat) :
    IsAscii (Nat.toDigits base n) := by
  induction n using Nat.strong_induction_on with
  | _ n ih =>
    rw [Nat.toDigits_eq_if hone]
    split
    · rename_i hlast
      exact List.forall_mem_singleton.mpr (toNat_digitChar_lt (by omega))
    · rename_i hmore
      have hless : n / base < n := Nat.div_lt_self (by omega) hone
      have hdigit : n % base < 16 := (Nat.mod_lt n (by omega)).trans_le hbase
      exact isAscii_append.mpr
        ⟨ih _ hless, List.forall_mem_singleton.mpr (toNat_digitChar_lt hdigit)⟩

theorem isAscii_ofInt (i : Int) : IsAscii (ofInt i) := by
  have hdigits : IsAscii (ofNat i.natAbs) := isAscii_toDigits (by omega) (by omega) _
  unfold ofInt
  split
  · exact isAscii_cons.mpr ⟨by decide, hdigits⟩
  · exact hdigits

theorem isAscii_hexPadded (width n : Nat) : IsAscii (hexPadded width n) := by
  refine isAscii_append.mpr ⟨?_, isAscii_toDigits (by omega) (by omega) n⟩
  intro c hc
  rw [List.eq_of_mem_replicate hc]
  decide

/-- Every encoding has the ASCII characters. -/
theorem Encoding.isSome_encode? (encoding : Encoding) (h : IsAscii t) :
    (encoding.encode? t).isSome = true := by
  have hbytes {size : Nat} (hsize : 0x80 ≤ size) : (bytewise? size t).isSome = true := by
    have hall : (t.all (·.toNat < size)) = true :=
      List.all_eq_true.mpr fun c hc => decide_eq_true ((h c hc).trans_le hsize)
    rw [bytewise?, if_pos hall]
    rfl
  cases encoding with
  | utf8 => rfl
  | latin1 => exact hbytes (by omega)
  | ascii => exact hbytes (by omega)

end Text

/-! ## Objects on one line -/

namespace Json

theorem isAscii_renderChar (c : Char) : IsAscii (renderChar c) := by
  have hescape (e : Char) (he : e.toNat < 0x80) : IsAscii ['\\', e] := by
    simpa [IsAscii] using he
  have hcoded (n : Nat) : IsAscii ('\\' :: 'u' :: hexPadded 4 n) :=
    isAscii_append.mpr ⟨hescape 'u' (by decide), isAscii_hexPadded 4 n⟩
  fun_cases renderChar c
  case case8 h => exact List.forall_mem_singleton.mpr (by omega)
  case case9 => exact hcoded _
  case case10 => exact isAscii_append.mpr ⟨hcoded _, hcoded _⟩
  all_goals exact hescape _ (by decide)

theorem isAscii_renderString (t : Text) : IsAscii (renderString t) := by
  refine isAscii_cons.mpr ⟨by decide, isAscii_append.mpr ⟨?_, by simp [IsAscii]⟩⟩
  intro c hc
  obtain ⟨d, _, hd⟩ := List.mem_flatMap.mp hc
  exact isAscii_renderChar d c hd

theorem isAscii_nullWord : IsAscii nullWord := by simp [IsAscii, nullWord]

theorem isAscii_boolWord (b : Bool) : IsAscii (boolWord b) := by
  cases b <;> simp [IsAscii, boolWord]

theorem isAscii_renderKey (k : Key) : IsAscii (renderKey k) := by
  cases k <;> exact isAscii_renderString _

/-- What stands between brackets, separated by commas. -/
theorem isAscii_bracketed {first last : Char} {parts : List Text} (hfirst : first.toNat < 0x80)
    (hlast : last.toNat < 0x80) (h : ∀ t ∈ parts, IsAscii t) :
    IsAscii (first :: (joinWith [',', ' '] parts ++ [last])) :=
  isAscii_cons.mpr ⟨hfirst, isAscii_append.mpr
    ⟨isAscii_joinWith (by simp [IsAscii]) h, List.forall_mem_singleton.mpr hlast⟩⟩

mutual

/-- Whatever it holds, a value is written in ASCII. -/
theorem isAscii_render : ∀ v : Value, IsAscii (render v)
  | .null => isAscii_nullWord
  | .bool b => isAscii_boolWord b
  | .int i => isAscii_ofInt i
  | .str t => isAscii_renderString t
  | .list vs => isAscii_bracketed (by decide) (by decide) (isAscii_renderItems vs)
  | .map es => isAscii_bracketed (by decide) (by decide) (isAscii_renderMembers es)

theorem isAscii_renderItems : ∀ vs : List Value, ∀ t ∈ renderItems vs, IsAscii t
  | [] => by simp [renderItems]
  | v :: vs => List.forall_mem_cons.mpr ⟨isAscii_render v, isAscii_renderItems vs⟩

theorem isAscii_renderMembers : ∀ es : List (Key × Value), ∀ t ∈ renderMembers es, IsAscii t
  | [] => by simp [renderMembers]
  | (k, v) :: es =>
    have hmember : IsAscii (renderKey k ++ ':' :: ' ' :: render v) :=
      isAscii_append.mpr ⟨isAscii_renderKey k,
        isAscii_cons.mpr ⟨by decide, isAscii_cons.mpr ⟨by decide, isAscii_render v⟩⟩⟩
    List.forall_mem_cons.mpr ⟨hmember, isAscii_renderMembers es⟩

end

end Json

/-! ## Records in files -/

namespace Log

open Settings

/-- An event has a record in a file if it has a line, and that of a line to read is in the encoding
of the file. -/
theorem isSome_bytes?_iff (encoding : Encoding) (stamp : Text) (e : Entry) (format : Format) :
    ((recorder encoding).bytes? stamp e format).isSome = true ↔
      hasLine stamp e.event format = true ∧
        (format = .console →
          (encoding.encode? (consoleLine stamp e.event ++ ['\n'])).isSome = true) := by
  unfold Recorder.bytes? recorder
  dsimp only
  split
  · rename_i hline
    rw [Option.bind_some, Line.ofText]
    cases format with
    | console => simp [hline, line]
    | json =>
      have hascii : IsAscii (line stamp e.event .json ++ ['\n']) :=
        isAscii_append.mpr ⟨Json.isAscii_render _, by simp [IsAscii]⟩
      simp [hline, encoding.isSome_encode? hascii]
  · rename_i hline
    simp [hline]

/-- What this program notes is not refused for its fields. -/
theorem fault?_notice (n : Notice) (recorded : Bool) : fault? recorded n.event.fields = none := by
  cases n <;> cases recorded <;> rfl

end Log

end Signpost
