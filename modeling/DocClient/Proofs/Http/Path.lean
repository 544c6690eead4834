import DocClient.Database.Basic
import DocClient.Proofs.Text.Utf8
/-!
# Request paths name their segments

An encoded path splits at its slashes into one piece per segment, each decoding back to it
(`encodePath_names_segments`).
-/
namespace DocClient

namespace Percent

/-- The value of a hexadecimal digit, in either case. -/
def hexValue? (c : Char) : Option Nat :=
  if '0' ≤ c ∧ c ≤ '9' then some (c.toNat - 48)
  else if 'A' ≤ c ∧ c ≤ 'F' then some (c.toNat - 55)
  else if 'a' ≤ c ∧ c ≤ 'f' then some (c.toNat - 87)
  else none

/-- The bytes a percent-encoded text stands for. -/
def decodeBytes : List Char → Option (List UInt8)
  | [] => some []
  | c :: rest =>
    if c = '%' then
      match rest with
      | h :: l :: rest' => do
        let hi ← hexValue? h
        let lo ← hexValue? l
        let tail ← decodeBytes rest'
        pure ((hi * 16 + lo).toUInt8 :: tail)
      | _ => none
    else if c.toNat < 128 then (decodeBytes rest).map (c.toNat.toUInt8 :: ·)
    else none

/-- The text a percent-encoded segment stands for: its bytes read as UTF-8. -/
def decodeSegment (piece : String) : Option String :=
  (decodeBytes piece.toList).bind fun bs => (Utf8.decode bs).toOption

/-- Whether a text is made of unreserved ASCII characters and `%XX` escapes only. -/
def isEscaped : List Char → Bool
  | [] => true
  | c :: rest =>
    if c = '%' then
      match rest with
      | h :: l :: rest' => (hexValue? h).isSome && (hexValue? l).isSome && isEscaped rest'
      | _ => false
    else decide (c.toNat < 128) && isUnreserved c.toNat.toUInt8 && isEscaped rest

theorem hexValue?_hexDigit {n : Nat} (h : n < 16) : hexValue? (hexDigit n) = some n := by
  have digits : ∀ m : Fin 16, hexValue? (hexDigit m) = some m := by decide
  exact digits ⟨n, h⟩

theorem hexDigit_ne_slash {n : Nat} (h : n < 16) : hexDigit n ≠ '/' := by
  have digits : ∀ m : Fin 16, hexDigit m ≠ '/' := by decide
  exact digits ⟨n, h⟩

theorem toNat_of_isUnreserved {b : UInt8} (h : isUnreserved b = true) :
    b.toNat < 128 ∧ b.toNat ≠ 37 ∧ b.toNat ≠ 47 := by
  simp only [isUnreserved, Bool.or_eq_true, Bool.and_eq_true, decide_eq_true_eq,
    UInt8.le_iff_toNat_le, beq_iff_eq] at h
  have h95 : b = 95 ↔ b.toNat = 95 := UInt8.toNat_inj.symm
  have h46 : b = 46 ↔ b.toNat = 46 := UInt8.toNat_inj.symm
  have h45 : b = 45 ↔ b.toNat = 45 := UInt8.toNat_inj.symm
  have h126 : b = 126 ↔ b.toNat = 126 := UInt8.toNat_inj.symm
  rw [h95, h46, h45, h126] at h
  simp only [UInt8.toNat_ofNat] at h
  omega

theorem char_of_isUnreserved {b : UInt8} (h : isUnreserved b = true) :
    (Char.ofNat b.toNat).toNat = b.toNat ∧ Char.ofNat b.toNat ≠ '%' ∧ Char.ofNat b.toNat ≠ '/' := by
  obtain ⟨h128, h37, h47⟩ := toNat_of_isUnreserved h
  have hc : (Char.ofNat b.toNat).toNat = b.toNat := by
    have ascii : ∀ m : Fin 128, (Char.ofNat m).toNat = m := by decide
    exact ascii ⟨_, h128⟩
  refine ⟨hc, fun he => h37 ?_, fun he => h47 ?_⟩
  · rw [← hc, he]; rfl
  · rw [← hc, he]; rfl

theorem toUInt8_toNat (b : UInt8) : b.toNat.toUInt8 = b := by
  simp [Nat.toUInt8]

theorem decodeBytes_encodeByte (b : UInt8) (rest : List Char) :
    decodeBytes (encodeByte b ++ rest) = (decodeBytes rest).map (b :: ·) := by
  unfold encodeByte
  by_cases hu : isUnreserved b = true
  · obtain ⟨hc, hpct, -⟩ := char_of_isUnreserved hu
    have h128 := (toNat_of_isUnreserved hu).1
    rw [if_pos hu, List.singleton_append, decodeBytes.eq_def]
    dsimp only
    rw [if_neg hpct, hc, if_pos h128, toUInt8_toNat]
  · -- an escape: `%` and the byte's two digits
    have hhi : b.toNat / 16 < 16 := by have := b.toNat_lt; omega
    have hlo : b.toNat % 16 < 16 := Nat.mod_lt _ (by decide)
    have hb : (b.toNat / 16 * 16 + b.toNat % 16).toUInt8 = b := by
      rw [show b.toNat / 16 * 16 + b.toNat % 16 = b.toNat by omega, toUInt8_toNat]
    rw [if_neg hu, List.cons_append, decodeBytes.eq_def]
    dsimp only
    rw [if_pos rfl]
    simp only [List.cons_append, List.nil_append, hexValue?_hexDigit hhi, hexValue?_hexDigit hlo]
    cases decodeBytes rest with
    | none => rfl
    | some tail =>
      show some ((b.toNat / 16 * 16 + b.toNat % 16).toUInt8 :: tail) = some (b :: tail)
      rw [hb]

theorem isEscaped_encodeByte (b : UInt8) (rest : List Char) :
    isEscaped (encodeByte b ++ rest) = isEscaped rest := by
  unfold encodeByte
  by_cases hu : isUnreserved b = true
  · obtain ⟨hc, hpct, -⟩ := char_of_isUnreserved hu
    have h128 := (toNat_of_isUnreserved hu).1
    rw [if_pos hu, List.singleton_append, isEscaped.eq_def]
    dsimp only
    rw [if_neg hpct, hc, toUInt8_toNat, hu]
    simp [h128]
  · have hhi : b.toNat / 16 < 16 := by have := b.toNat_lt; omega
    have hlo : b.toNat % 16 < 16 := Nat.mod_lt _ (by decide)
    rw [if_neg hu, List.cons_append, isEscaped.eq_def]
    dsimp only
    rw [if_pos rfl]
    simp [hexValue?_hexDigit hhi, hexValue?_hexDigit hlo]

theorem slash_not_mem_encodeByte (b : UInt8) : '/' ∉ encodeByte b := by
  unfold encodeByte
  split
  · rename_i hu
    simpa [eq_comm] using (char_of_isUnreserved hu).2.2
  · have hhi : b.toNat / 16 < 16 := by have := b.toNat_lt; omega
    have hlo : b.toNat % 16 < 16 := Nat.mod_lt _ (by decide)
    simp only [List.mem_cons, List.not_mem_nil, or_false, not_or]
    exact ⟨by decide, fun h => hexDigit_ne_slash hhi h.symm,
      fun h => hexDigit_ne_slash hlo h.symm⟩

theorem decodeBytes_flatMap_encodeByte :
    ∀ bs : List UInt8, decodeBytes (bs.flatMap encodeByte) = some bs
  | [] => rfl
  | b :: bs => by
    rw [List.flatMap_cons, decodeBytes_encodeByte, decodeBytes_flatMap_encodeByte bs]
    rfl

theorem isEscaped_flatMap_encodeByte : ∀ bs : List UInt8, isEscaped (bs.flatMap encodeByte) = true
  | [] => rfl
  | b :: bs => by
    rw [List.flatMap_cons, isEscaped_encodeByte, isEscaped_flatMap_encodeByte bs]

theorem decodeSegment_encodeSegment (s : String) : decodeSegment (encodeSegment s) = some s := by
  simp [decodeSegment, encodeSegment, decodeBytes_flatMap_encodeByte, Utf8.decode_encode,
    Except.toOption]

theorem encodeSegment_inj {s t : String} : encodeSegment s = encodeSegment t ↔ s = t := by
  constructor
  · intro h
    have hs := decodeSegment_encodeSegment s
    rw [h, decodeSegment_encodeSegment] at hs
    exact (Option.some.inj hs).symm
  · rintro rfl
    rfl

theorem isEscaped_encodeSegment (s : String) : isEscaped (encodeSegment s).toList = true := by
  simp [encodeSegment, isEscaped_flatMap_encodeByte]

theorem slash_not_mem_encodeSegment (s : String) : '/' ∉ (encodeSegment s).toList := by
  simp only [encodeSegment, String.toList_ofList, List.mem_flatMap, not_exists, not_and]
  exact fun b _ => slash_not_mem_encodeByte b

theorem split_joinSegments {ss : List String} (hne : ss ≠ []) :
    ((joinSegments ss).split '/').toList.map (·.copy) = ss.map encodeSegment := by
  have hsplit := @String.toList_split_intercalate '/' (ss.map encodeSegment)
    (by simpa using fun s _ => slash_not_mem_encodeSegment s)
  rw [if_neg (by simpa using hne)] at hsplit
  exact hsplit

end Percent

theorem mapM_map_of_ok {α β ε : Type} {f : β → Except ε α} {g : α → β} (h : ∀ a, f (g a) = .ok a) :
    ∀ l : List α, (l.map g).mapM f = .ok l
  | [] => rfl
  | a :: l => by
    rw [List.map_cons, List.mapM_cons, h a, mapM_map_of_ok h l]
    rfl

theorem encodePath_ofString (ss : List String) :
    encodePath (ss.map fun s => .str (Text.ofString s)) = .ok (Percent.joinSegments ss) := by
  unfold encodePath
  rw [mapM_map_of_ok]
  · rfl
  · intro s
    simp only [Utf8.encodable, Utf8.encodeText_ofString, Text.lossy_ofString]
    rfl

namespace Percent

theorem encodeSegment_dots :
    encodeSegment "" = "" ∧ encodeSegment "." = "." ∧ encodeSegment ".." = ".." := by decide

end Percent

/-- An encoded path splits at its slashes into its segments, each decoding back. -/
theorem encodePath_names_segments (ss : List String) (hne : ss ≠ []) :
    ∃ p, encodePath (ss.map fun s => .str (Text.ofString s)) = .ok p ∧
      (p.split '/').toList.map (·.copy) = ss.map Percent.encodeSegment ∧
      ∀ s ∈ ss, Percent.decodeSegment (Percent.encodeSegment s) = some s ∧
        Percent.isEscaped (Percent.encodeSegment s).toList = true ∧
        (Percent.encodeSegment s = "" ↔ s = "") ∧ (Percent.encodeSegment s = "." ↔ s = ".") ∧
        (Percent.encodeSegment s = ".." ↔ s = "..") := by
  obtain ⟨hempty, hdot, hdots⟩ := Percent.encodeSegment_dots
  refine ⟨_, encodePath_ofString ss, Percent.split_joinSegments hne, fun s _ => ?_⟩
  refine ⟨Percent.decodeSegment_encodeSegment s, Percent.isEscaped_encodeSegment s, ?_, ?_, ?_⟩
  · have h := @Percent.encodeSegment_inj s ""
    rwa [hempty] at h
  · have h := @Percent.encodeSegment_inj s "."
    rwa [hdot] at h
  · have h := @Percent.encodeSegment_inj s ".."
    rwa [hdots] at h

theorem encodePath_names_segments_slash_and_dots :
    ["users", "a/b", ".."] ≠ [] ∧
    ∃ p, encodePath (["users", "a/b", ".."].map fun s => .str (Text.ofString s)) = .ok p ∧
      (p.split '/').toList.map (·.copy) = ["users", "a/b", ".."].map Percent.encodeSegment ∧
      ∀ s ∈ ["users", "a/b", ".."], Percent.decodeSegment (Percent.encodeSegment s) = some s ∧
        Percent.isEscaped (Percent.encodeSegment s).toList = true ∧
        (Percent.encodeSegment s = "" ↔ s = "") ∧ (Percent.encodeSegment s = "." ↔ s = ".") ∧
        (Percent.encodeSegment s = ".." ↔ s = "..") :=
  ⟨by simp, encodePath_names_segments _ (by simp)⟩

/-- A document id `..` is sent as a dot segment of its own. -/
theorem dot_segment_id_kept :
    encodePath [.str (Text.ofString "users"), .str (Text.ofString "..")] = .ok "users/.." ∧
      ".." ∈ ("users/..".split '/').toList.map (·.copy) := by
  have hpath := encodePath_ofString ["users", ".."]
  have hjoin : Percent.joinSegments ["users", ".."] = "users/.." := by decide
  rw [hjoin] at hpath
  refine ⟨hpath, ?_⟩
  rw [← hjoin, Percent.split_joinSegments (by simp)]
  decide

end DocClient
