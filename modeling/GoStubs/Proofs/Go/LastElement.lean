import GoStubs.Go.Package
import GoStubs.Proofs.Go.Elements
import GoStubs.Proofs.Go.ExportedBytes
/-!
# The last element of a path

Where a path has elements, the last one is what is found from its end. It can be found by bytes as
well, since a slash is one byte that no other character has in it. The package name that an import
path suggests depends on nothing but this element.

* `isLastPiece_charBytes`: the last piece of a text, by bytes.
* `LastElement`: what the last element of a path is.
* `lastElement_isLast`: this is what is computed, for every path.
-/

namespace GoStubs.Go

open GoStubs.Text GoStubs.Unicode GoStubs.Wire

/-! ## Last pieces of bytes -/

section

variable {sep : Char} {cs last : List Char}

theorem charBytes_append (cs ds : List Char) : charBytes (cs ++ ds) = charBytes cs ++ charBytes ds :=
  List.flatMap_append

/-- The byte of an ASCII character stands for nothing else. -/
theorem toUInt8_mem_charBytes_iff (hsep : isAscii sep = true) :
    sep.toUInt8 ∈ charBytes cs ↔ sep ∈ cs := by
  induction cs with
  | nil => simp [charBytes]
  | cons c cs ih =>
    cases hc : isAscii c with
    | true =>
      rw [charBytes_cons_of_isAscii hc, List.mem_cons, List.mem_cons, toUInt8_inj hsep hc, ih]
    | false =>
      have hencoded : sep.toUInt8 ∉ String.utf8EncodeChar c := fun hmem =>
        (isHigh_of_mem_utf8EncodeChar hc _ hmem).ne hsep rfl
      have hne : sep ≠ c := (ne_of_isAscii_eq_false hc hsep).symm
      rw [charBytes_cons, List.mem_append, List.mem_cons, ih]
      simp [hencoded, hne]

theorem charBytes_ne_nil (h : cs ≠ []) : charBytes cs ≠ [] := by
  obtain ⟨c, ds, rfl⟩ := List.exists_cons_of_ne_nil h
  rw [charBytes_cons]
  exact List.append_ne_nil_of_left_ne_nil (utf8EncodeChar_ne_nil c) _

theorem isLastPiece_charBytes (hsep : isAscii sep = true) (h : IsLastPiece sep cs last) :
    IsLastPiece sep.toUInt8 (charBytes cs) (charBytes last) := by
  have hmem : ∀ {ds : List Char}, sep ∉ ds → sep.toUInt8 ∉ charBytes ds :=
    mt (toUInt8_mem_charBytes_iff hsep).mp
  induction h with
  | whole hlast hnot => exact .whole (charBytes_ne_nil hlast) (hmem hnot)
  | behind front hlast hnot =>
    rw [charBytes_append, charBytes_cons_of_isAscii hsep]
    exact .behind _ (charBytes_ne_nil hlast) (hmem hnot)
  | trailing _ ih =>
    rw [charBytes_append, charBytes_cons_of_isAscii hsep]
    exact ih.trailing

end

/-! ## The last element -/

theorem lastPiece_utf8Bytes (path : String) : lastPiece '/'.toUInt8 (utf8Bytes path) =
    utf8Bytes ((pathElements path).getLast?.getD "") := by
  rw [utf8Bytes_eq, utf8Bytes_eq]
  rcases forall_eq_or_isLastPiece path with h | ⟨last, h⟩
  · have hbytes : ∀ b ∈ charBytes path.toList, b = '/'.toUInt8 := by
      intro b hb
      obtain ⟨c, hc, hb⟩ := List.mem_flatMap.mp hb
      rw [h c hc, ← List.append_nil (String.utf8EncodeChar '/')] at hb
      exact List.mem_singleton.mp hb
    rw [pathElements_eq_nil h, lastPiece_eq_nil hbytes]
    rfl
  · rw [(isLastPiece_charBytes rfl h).lastPiece_eq, getLast?_pathElements h, Option.getD_some,
      String.toList_ofList]

/-- The name that a path suggests is that of its last element. Without one it is always the same. -/
theorem suggestedName_eq (path : String) :
    suggestedName path = ((pathElements path).getLast?.map identifierOf).getD "__" := by
  rw [suggestedName]
  rcases forall_eq_or_isLastPiece path with h | ⟨last, h⟩
  · rw [lastElement_of_forall_eq h, pathElements_eq_nil h]
    split_ifs <;> decide +kernel
  · rw [lastElement_of_isLastPiece h, getLast?_pathElements h]
    rfl

/-- What the last element of a path is. -/
structure LastElement (path : String) : Prop where
  empty : path = "" → lastElement path = "."
  root : path ≠ "" → (∀ c ∈ path.toList, c = '/') → lastElement path = "/"
  /-- If there is more than slashes, it is the last of the pieces between them that are not empty. -/
  last : (∃ c ∈ path.toList, c ≠ '/') → (pathElements path).getLast? = some (lastElement path)
  idempotent : lastElement (lastElement path) = lastElement path
  /-- Slashes at the end do not count. -/
  append : path ≠ "" → ∀ slashes : String, (∀ c ∈ slashes.toList, c = '/') →
    lastElement (path ++ slashes) = lastElement path
  ne_empty : lastElement path ≠ ""
  slash_not_mem : lastElement path ≠ "/" → '/' ∉ (lastElement path).toList
  /-- By bytes, what is cut off is a text as well, and the same one. -/
  bytes : Text.lastPiece '/'.toUInt8 (utf8Bytes path) =
    utf8Bytes ((pathElements path).getLast?.getD "")
  /-- The suggested package name depends on this element alone, -/
  suggested : suggestedName path = ((pathElements path).getLast?.map identifierOf).getD "__"
  /-- so that paths which have the same one, or none, suggest the same name. -/
  suggested_congr : ∀ path', (pathElements path').getLast? = (pathElements path).getLast? →
    suggestedName path' = suggestedName path

/-- **Last elements.** The last element of every path is the last of its elements, a dot for the empty
path and a slash for one of slashes alone; and the name that a path suggests for a package depends on
nothing else of it. -/
theorem lastElement_isLast (path : String) : LastElement path where
  empty hpath := by
    subst hpath
    rfl
  root hpath h := by rw [lastElement_of_forall_eq h, if_neg hpath]
  last h := by
    obtain ⟨last, hlast⟩ := exists_isLastPiece h
    rw [lastElement_of_isLastPiece hlast, getLast?_pathElements hlast]
  idempotent := lastElement_lastElement path
  append hpath _ := lastElement_append hpath
  ne_empty := lastElement_ne_empty path
  slash_not_mem := slash_not_mem_lastElement
  bytes := lastPiece_utf8Bytes path
  suggested := suggestedName_eq path
  suggested_congr path' h := by rw [suggestedName_eq, suggestedName_eq, h]

/-- Doubled slashes, and a character of three bytes in front of the cut. -/
example : lastElement "/gen//日/v1//" = "v1" ∧ lastElement "/gen//日" = "日" := by decide +kernel

end GoStubs.Go
