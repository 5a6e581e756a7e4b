import Seedbed.Proofs.Url.Ipv6
import Seedbed.Proofs.Url.Plain
import Seedbed.Proofs.Url.Punycode

/-!
# What addresses are written with

The characters that each part of an address can hold. User information holds no character of its set
(`not_isUserinfoEncoded_of_mem`), a path none of the set of paths (`isPath_appendPath`), and a host
of any kind is a text without slashes, brackets and marks (`isSeemly_of_hostOfText`).
-/

namespace Seedbed.Url

variable {text : List Char} {kind : SchemeKind} {c : Char}

/-! ## Encoded texts -/

/-- What encoded bytes are written with. -/
def isEscape (c : Char) : Bool := c == '%' || c.isDigit || ('A' ≤ c && c ≤ 'F')

/-- What holds of every code point of ASCII holds of every character in ASCII. -/
theorem of_ascii {p : Char → Prop} (all : ∀ n < 128, p (Char.ofNat n)) (ascii : c.toNat < 128) :
    p c := by
  have this := all _ ascii
  rwa [Char.ofNat_toNat] at this

theorem isEscape_of_mem_percentByte {byte : UInt8} (member : c ∈ percentByte byte) :
    isEscape c := by
  have digits : ∀ n < 16, isEscape (upperHexDigit n) := by decide
  have small := byte.toNat_lt
  simp only [percentByte, List.mem_cons, List.not_mem_nil, or_false] at member
  rcases member with rfl | rfl | rfl
  · decide
  · exact digits _ (by omega)
  · exact digits _ (by omega)

theorem mem_percentEncode {encoded : Char → Bool} (member : c ∈ percentEncode encoded text) :
    (c ∈ text ∧ encoded c = false) ∨ isEscape c := by
  obtain ⟨source, inside, member⟩ := List.mem_flatMap.mp member
  unfold percentChar at member
  split at member
  · obtain ⟨byte, -, member⟩ := List.mem_flatMap.mp member
    exact .inr (isEscape_of_mem_percentByte member)
  · obtain rfl := List.mem_singleton.mp member
    exact .inl ⟨inside, by simp_all⟩

theorem ascii_of_isEscape (escape : isEscape c) : c.toNat < 128 := by
  simp only [isEscape, Bool.or_eq_true, beq_iff_eq, Bool.and_eq_true, decide_eq_true_eq] at escape
  rcases escape with (rfl | digit) | ⟨-, upper⟩
  · decide
  · exact Text.ascii_of_isAlphanum (by simp [Char.isAlphanum, digit])
  · exact Nat.lt_of_le_of_lt upper (by decide)

theorem not_isUserinfoEncoded_of_isEscape (escape : isEscape c) : isUserinfoEncoded c = false :=
  of_ascii (p := fun c => isEscape c → isUserinfoEncoded c = false) (by decide)
    (ascii_of_isEscape escape) escape

theorem not_isUserinfoEncoded_of_mem (member : c ∈ percentEncode isUserinfoEncoded text) :
    isUserinfoEncoded c = false :=
  (mem_percentEncode member).elim And.right not_isUserinfoEncoded_of_isEscape

/-! ## Paths -/

/-- Whether a text holds no character that is encoded in paths. -/
def IsPath (text : List Char) : Prop := ∀ c ∈ text, isPathEncoded c = false

theorem isPath_percentEncode (text : List Char) : IsPath (percentEncode isPathEncoded text) := by
  intro c member
  refine (mem_percentEncode member).elim And.right fun escape => ?_
  exact (Bool.or_eq_false_iff.mp (not_isUserinfoEncoded_of_isEscape escape)).1

theorem isPath_nil : IsPath [] := fun _ member => nomatch member

theorem IsPath.append {first last : List Char} (isPath : IsPath first) (isPath' : IsPath last) :
    IsPath (first ++ last) :=
  List.forall_mem_append.mpr ⟨isPath, isPath'⟩

theorem IsPath.cons (isPath : IsPath text) (plain : isPathEncoded c = false) : IsPath (c :: text) :=
  List.forall_mem_cons.mpr ⟨plain, isPath⟩

theorem IsPath.mono {part : List Char} (isPath : IsPath text) (part_of : part ⊆ text) :
    IsPath part :=
  fun c member => isPath c (part_of member)

theorem isPath_driveLetter (drive : isDriveLetter text) : IsPath text := by
  unfold isDriveLetter at drive
  split at drive
  · rename_i letter
    have ascii := Text.ascii_of_isAlphanum (c := letter) (by simp [Char.isAlphanum, drive])
    have plain : isPathEncoded letter = false :=
      of_ascii (p := fun c => c.isAlpha → isPathEncoded c = false) (by decide) ascii drive
    exact (isPath_nil.cons (by decide)).cons plain
  · cases drive

theorem isDriveLetter_of_brokenDrive? {drive rest : List Char}
    (broken : brokenDrive? text = some (drive, rest)) : isDriveLetter drive := by
  unfold brokenDrive? at broken
  simp only at broken
  split at broken
  · obtain ⟨letter, same⟩ := Option.ite_none_right_eq_some.mp broken
    obtain ⟨rfl, -⟩ := Prod.mk.inj (Option.some.inj same)
    simp only [Bool.and_eq_true] at letter
    exact letter.1.1
  · cases broken

theorem toLastSlash_subset (path : List Char) : toLastSlash path ⊆ path := by
  intro c member
  have inside := List.dropWhile_subset _ (List.mem_reverse.mp member)
  exact List.mem_reverse.mp inside

theorem dropFinalSlash_subset (path : List Char) : dropFinalSlash path ⊆ path := by
  unfold dropFinalSlash
  simp only
  split
  · exact List.dropLast_subset path
  · exact List.Subset.refl path

theorem dropSegment_subset (kind : SchemeKind) (path : List Char) :
    dropSegment kind path ⊆ path := by
  unfold dropSegment
  split
  · exact List.Subset.refl path
  · exact toLastSlash_subset path

theorem IsPath.closed (isPath : IsPath text) : IsPath (closed text) := by
  unfold Url.closed
  split
  · exact isPath
  · exact isPath.append (isPath_nil.cons (by decide))

theorem isPath_appendSegment {path : List Char} (isPath : IsPath path) (segment : List Char)
    (slash : Bool) : IsPath (appendSegment kind path segment slash) := by
  have slash_plain : isPathEncoded '/' = false := by decide
  have colon_plain : isPathEncoded ':' = false := by decide
  have encoded := isPath_percentEncode (unbroken segment)
  have ending : IsPath (if slash then ['/'] else []) := by
    split
    · exact isPath_nil.cons (by decide)
    · exact isPath_nil
  have shorter := (isPath.mono (dropFinalSlash_subset path)).mono (dropSegment_subset kind _)
  unfold appendSegment
  simp only
  generalize (if slash then ['/'] else []) = ending at ending
  split
  · -- a drive written with a bar is put under the root as it is
    rename_i drive rest broken
    have letter : isDriveLetter drive := by
      split at broken
      · exact isDriveLetter_of_brokenDrive? broken
      · cases broken
    have start := isPath.append (isPath_driveLetter letter)
    have after := (isPath_percentEncode rest).cons slash_plain
    exact (start.append after).append ending
  · split_ifs
    · exact shorter.closed
    · exact shorter
    · exact isPath.closed
    · have letter := isPath.append (encoded.mono (List.take_subset 1 _))
      exact letter.append (ending.cons colon_plain)
    · exact (isPath.append encoded).append ending

/-- No character of a path is one that is encoded in paths. -/
theorem isPath_appendPath {path : List Char} (isPath : IsPath path) (text : List Char) :
    IsPath (appendPath kind path text) := by
  have whole : IsPath ((segments kind text).foldl
      (fun path part => appendSegment kind path part.1 part.2) path) := by
    generalize segments kind text = parts
    induction parts generalizing path with
    | nil => exact isPath
    | cons part parts ih => exact ih (isPath_appendSegment isPath part.1 part.2)
  unfold appendPath
  simp only
  split
  · exact (whole.mono (List.dropWhile_subset _)).cons (by decide)
  · exact whole

theorem isPath_pathAfterHost (text : List Char) : IsPath (pathAfterHost kind text) := by
  have root : IsPath ['/'] := isPath_nil.cons (by decide)
  unfold pathAfterHost
  split
  · split
    · exact isPath_appendPath root _
    · exact isPath_nil
  · split_ifs
    · exact isPath_appendPath root _
    · exact isPath_appendPath root _
    · exact isPath_appendPath isPath_nil _
    · exact isPath_appendPath root _

/-! ## Domain names -/

namespace Domain

/-- A label holds no forbidden character, and has a bounded length if it is not in ASCII. -/
theorem isLabel_of_decoded? {label decoded : List Char} (found : decoded? label = some decoded) :
    isLabel decoded := by
  unfold decoded? at found
  split at found
  · obtain ⟨-, -, found⟩ := Option.bind_eq_some_iff.mp found
    obtain ⟨codes, -, found⟩ := Option.bind_eq_some_iff.mp found
    obtain ⟨whole, same⟩ := Option.ite_none_right_eq_some.mp found
    rw [← Option.some.inj same]
    simp only [Bool.and_eq_true] at whole
    exact whole.2
  · obtain ⟨isLabel, same⟩ := Option.ite_none_right_eq_some.mp found
    rwa [← Option.some.inj same]

theorem isAlphanum_iff : c.isAlphanum ↔ (c.isUpper ∨ c.isLower) ∨ c.isDigit := by
  rw [show c.isAlphanum = ((c.isUpper || c.isLower) || c.isDigit) from rfl, Bool.or_eq_true,
    Bool.or_eq_true]

theorem not_isForbidden_of_isAlphanum (alphanum : c.isAlphanum) : isForbidden c = false :=
  of_ascii (p := fun c => c.isAlphanum → isForbidden c = false) (by decide)
    (Text.ascii_of_isAlphanum alphanum) alphanum

theorem not_isForbidden_of_isDigitChar (digit : Punycode.isDigitChar c) :
    isForbidden c = false := by
  refine not_isForbidden_of_isAlphanum (isAlphanum_iff.mpr ?_)
  exact (Bool.or_eq_true_iff.mp digit).imp_left .inr

theorem not_isForbidden_of_mem_written {label : List Char} (isLabel : isLabel label)
    (member : c ∈ written label) : isForbidden c = false := by
  simp only [Domain.isLabel, Bool.and_eq_true, Bool.or_eq_true, Bool.not_eq_true',
    List.any_eq_false, decide_eq_true_eq] at isLabel
  obtain ⟨⟨⟨size, -⟩, allowed⟩, -⟩ := isLabel
  have allowed (c : Char) (member : c ∈ label) : isForbidden c = false := by
    simpa using allowed c member
  unfold written at member
  split at member
  · exact allowed c member
  · -- the code has its own characters, and those of the label that are in ASCII
    rename_i other
    rcases List.mem_append.mp member with mark | coded
    · have all : "xn--".toList.all (! isForbidden ·) := by decide
      simpa using List.all_eq_true.mp all c mark
    · have few : (label.map Char.toNat).length ≤ 1000 := by
        rw [List.length_map]
        exact size.resolve_left other
      have codes : ∀ code ∈ label.map Char.toNat, code < 0x110000 := by
        intro code member
        obtain ⟨c, -, rfl⟩ := List.mem_map.mp member
        rcases c.valid with low | ⟨-, high⟩
        · exact Nat.lt_trans low (by decide)
        · exact high
      rcases Punycode.mem_encode few codes coded with digit | rfl | own
      · exact not_isForbidden_of_isDigitChar digit
      · decide
      · obtain ⟨other, inside, same⟩ := List.mem_map.mp own
        rw [← Char.toNat_inj.mp same]
        exact allowed other inside

theorem mem_of_mapM {α β : Type} {f : α → Option β} {sources : List α} {results : List β} {b : β}
    (all : sources.mapM f = some results) (member : b ∈ results) : ∃ a, f a = some b := by
  induction sources generalizing results with
  | nil =>
    cases all
    cases member
  | cons a sources ih =>
    rw [List.mapM_cons] at all
    obtain ⟨first, found, all⟩ := Option.bind_eq_some_iff.mp all
    obtain ⟨others, rest, same⟩ := Option.bind_eq_some_iff.mp all
    cases same
    rcases List.mem_cons.mp member with rfl | later
    · exact ⟨a, found⟩
    · exact ih rest later

theorem mem_intercalate {dot : Char} {parts : List (List Char)}
    (member : c ∈ [dot].intercalate parts) : c = dot ∨ ∃ part ∈ parts, c ∈ part := by
  induction parts with
  | nil => cases member
  | cons part parts ih =>
    cases parts with
    | nil => exact .inr ⟨part, List.mem_cons_self, by simpa using member⟩
    | cons next parts =>
      rw [List.intercalate_cons_cons, List.mem_append, List.mem_append,
        List.mem_singleton] at member
      rcases member with (inside | isDot) | later
      · exact .inr ⟨part, List.mem_cons_self, inside⟩
      · exact .inl isDot
      · exact (ih later).imp_right fun ⟨other, among, inside⟩ =>
          ⟨other, List.mem_cons_of_mem part among, inside⟩

theorem not_isForbidden_of_toAscii? {bytes : List UInt8} {domain : List Char}
    (ascii : toAscii? bytes = some domain) (member : c ∈ domain) : isForbidden c = false := by
  obtain ⟨text, -, ascii⟩ := Option.bind_eq_some_iff.mp ascii
  obtain ⟨name, -, ascii⟩ := Option.bind_eq_some_iff.mp ascii
  obtain ⟨labels, decoded, ascii⟩ := Option.bind_eq_some_iff.mp ascii
  obtain ⟨-, same⟩ := Option.ite_none_left_eq_some.mp ascii
  rw [← Option.some.inj same] at member
  rcases mem_intercalate member with rfl | ⟨part, among, inside⟩
  · decide
  · obtain ⟨label, known, rfl⟩ := List.mem_map.mp among
    obtain ⟨source, found⟩ := mem_of_mapM decoded known
    exact not_isForbidden_of_mem_written (isLabel_of_decoded? found) inside

end Domain

/-! ## Hosts -/

/-- Whether a character is none of the brackets, slashes and marks around a host. -/
def IsHostChar (c : Char) : Prop := c ∉ ['[', ']', '/', '?', '#', '@']

/-- Whether a text has something in it, and nothing that stands around a host. -/
structure IsSeemly (text : List Char) : Prop where
  some : text ≠ []
  plain : ∀ c ∈ text, IsHostChar c

theorem isHostChar_of_not_isForbidden (allowed : Domain.isForbidden c = false) : IsHostChar c := by
  intro mark
  simp only [List.mem_cons, List.not_mem_nil, or_false] at mark
  rcases mark with rfl | rfl | rfl | rfl | rfl | rfl <;> exact absurd allowed (by decide)

theorem isHostChar_of_isGroupDigit (digit : isGroupDigit c) : IsHostChar c := by
  refine isHostChar_of_not_isForbidden (Domain.not_isForbidden_of_isAlphanum ?_)
  obtain ⟨value, digit⟩ := Option.isSome_iff_exists.mp digit
  have letter := (Option.filter_eq_some_iff.mp digit).1
  rw [Domain.isAlphanum_iff]
  split_ifs at letter with decimal lower upper
  · exact .inr decimal
  · exact .inl (.inr lower)
  · exact .inl (.inl upper)

theorem isSeemly_ipv4Text (address : Nat) : IsSeemly (ipv4Text address) where
  some := by
    rw [ipv4Text_eq]
    exact List.append_ne_nil_of_right_ne_nil _ (List.cons_ne_nil _ _)
  plain c member := by
    rcases mem_ipv4Text member with digit | rfl
    · exact isHostChar_of_isGroupDigit digit
    · unfold IsHostChar
      decide

theorem exists_reading_of_ipv6Groups? {groups : List Nat} (read : ipv6Groups? text = some groups) :
    ∃ reading : Ipv6Reading, reading.groups? = some groups := by
  unfold ipv6Groups? at read
  split at read
  · obtain ⟨reading, -, whole⟩ := Option.bind_eq_some_iff.mp read
    exact ⟨reading, whole⟩
  · cases read
  · obtain ⟨reading, -, whole⟩ := Option.bind_eq_some_iff.mp read
    exact ⟨reading, whole⟩

theorem le_length_of_ipv6Groups? {groups : List Nat} (read : ipv6Groups? text = some groups) :
    8 ≤ groups.length := by
  obtain ⟨reading, whole⟩ := exists_reading_of_ipv6Groups? read
  unfold Ipv6Reading.groups? at whole
  split at whole
  · obtain ⟨eight, same⟩ := Option.ite_none_right_eq_some.mp whole
    rw [← Option.some.inj same, eight]
  · -- the zeros fill up to eight groups, and there can be more than eight without them
    rw [← Option.some.inj whole]
    simp only [List.length_append, List.length_replicate]
    omega

theorem ipv6Text_ne_nil (group : Nat) (groups : List Nat) : ipv6Text (group :: groups) ≠ [] := by
  rw [ipv6Text.eq_def]
  split
  · simp
  · dsimp only
    split
    · simp
    · exact groupsText_ne_nil group groups

theorem isSeemly_bracketedHost {host : Host} (read : bracketedHost text = .ok host) :
    IsSeemly host.text := by
  unfold bracketedHost at read
  split_ifs at read
  split at read
  · rename_i groups found
    cases read
    have eight := le_length_of_ipv6Groups? found
    have some : groups ≠ [] := by
      rintro rfl
      simp at eight
    obtain ⟨group, others, rfl⟩ := List.exists_cons_of_ne_nil some
    refine ⟨ipv6Text_ne_nil group others, fun c member => ?_⟩
    rcases mem_ipv6Text member with digit | rfl | rfl
    · exact isHostChar_of_isGroupDigit digit
    · unfold IsHostChar
      decide
    · unfold IsHostChar
      decide
  · cases read

theorem isHostChar_of_isEscape (escape : isEscape c) : IsHostChar c :=
  of_ascii (p := fun c => isEscape c → IsHostChar c) (by unfold IsHostChar; decide)
    (ascii_of_isEscape escape) escape

theorem isHostChar_of_not_isForbiddenInHost (allowed : isForbiddenInHost c = false) :
    IsHostChar c := by
  intro mark
  simp only [List.mem_cons, List.not_mem_nil, or_false] at mark
  rcases mark with rfl | rfl | rfl | rfl | rfl | rfl <;> exact absurd allowed (by decide)

theorem isSeemly_opaqueHost {host : Host} (some : text ≠ []) (read : opaqueHost text = .ok host) :
    IsSeemly host.text := by
  unfold opaqueHost at read
  split_ifs at read with bracket forbidden
  · exact isSeemly_bracketedHost read
  · cases read
    refine ⟨percentEncode_ne_nil some, fun c member => ?_⟩
    rcases mem_percentEncode member with ⟨inside, -⟩ | escape
    · have allowed := List.any_eq_false.mp (Bool.eq_false_iff.mpr forbidden) c inside
      exact isHostChar_of_not_isForbiddenInHost (Bool.eq_false_iff.mpr allowed)
    · exact isHostChar_of_isEscape escape

theorem isSeemly_specialHost {host : Host} (read : specialHost text = .ok host) :
    IsSeemly host.text := by
  unfold specialHost at read
  split_ifs at read with bracket
  · exact isSeemly_bracketedHost read
  · split at read
    · cases read
    · rename_i domain ascii
      have name (some : domain.isEmpty = false) : IsSeemly domain :=
        ⟨List.isEmpty_eq_false_iff.mp some, fun c member =>
          isHostChar_of_not_isForbidden (Domain.not_isForbidden_of_toAscii? ascii member)⟩
      split_ifs at read with empty number
      · split at read
        · cases read
          exact isSeemly_ipv4Text _
        · cases read
      · cases read
        exact name (Bool.eq_false_iff.mpr empty)

theorem map_eq_ok_iff {ε α β : Type} {f : α → β} {result : Except ε α} {value : β} :
    result.map f = .ok value ↔ ∃ found, result = .ok found ∧ f found = value := by
  cases result <;> simp [Except.map]

/-- No host is empty, and nothing that stands around a host is in it. -/
theorem isSeemly_of_hostOfText {host : Host} (read : hostOfText kind text = .ok (some host)) :
    IsSeemly host.text := by
  unfold hostOfText at read
  split_ifs at read with special empty empty
  · obtain ⟨found, special, same⟩ := map_eq_ok_iff.mp read
    exact Option.some.inj same ▸ isSeemly_specialHost special
  · cases read
  · obtain ⟨found, plain, same⟩ := map_eq_ok_iff.mp read
    exact Option.some.inj same ▸ isSeemly_opaqueHost (by simpa using empty) plain

end Seedbed.Url
