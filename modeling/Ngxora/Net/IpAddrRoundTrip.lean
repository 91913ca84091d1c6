/- Printing an IP address and parsing the text gives the address back. -/

import Ngxora.Net.IpAddr

namespace Ngxora.Net

open IpAddr List Digits

variable {number radix slots : Nat} {rest text : List Char} {char : Char}
  {segs : List UInt16} {addr : Ipv6Addr}

lemma toDigits_ten_length (small : number < 256) : (Nat.toDigits 10 number).length ≤ 3 :=
  (Nat.length_toDigits_le_iff (by decide) (by decide)).mpr (by omega)

lemma toDigits_sixteen_length (small : number < 65536) : (Nat.toDigits 16 number).length ≤ 4 :=
  (Nat.length_toDigits_le_iff (by decide) (by decide)).mpr (by omega)

lemma readNumber_toDigits {maxDigits : Nat} {allowZeroPrefix : Bool} (atLeast : 1 < radix)
    (small : radix ≤ 16) (short : (Nat.toDigits radix number).length ≤ maxDigits)
    (delim : Delimited radix rest) :
    readNumber radix maxDigits allowZeroPrefix (Nat.toDigits radix number ++ rest) =
      some (number, rest) := by
  have readable : ¬((Nat.toDigits radix number).length > maxDigits ∨
      Nat.toDigits radix number = []) := by
    rintro (long | empty)
    · omega
    · exact Nat.toDigits_ne_nil empty
  have plain : (!allowZeroPrefix && (Nat.toDigits radix number).head? == some '0' &&
      decide ((Nat.toDigits radix number).length > 1)) = false := by
    by_cases leading : (Nat.toDigits radix number).head? = some '0'
    · -- A leading zero is printed for the number zero only, and then alone.
      have zero := eq_zero_of_leading_zero atLeast small leading
      subst zero
      rw [Nat.toDigits_of_lt_base (by omega)]
      simp
    · simp [leading]
  rw [readNumber, spanDigits_toDigits atLeast small number delim]
  change (if _ then none else if _ then none else _) = _
  rw [if_neg readable, plain, if_neg Bool.false_ne_true, valueOf_toDigits atLeast small]

lemma delimited_of_head {mark : Char} (notDigit : isDigit radix mark = false) :
    Delimited radix (mark :: rest) := by
  intro char head
  have same : mark = char := Option.some.inj head
  rwa [← same]

lemma delimited_nil (radix : Nat) : Delimited radix [] :=
  fun _ head => nomatch head

lemma readOctet_toDigits (octet : UInt8) (delim : Delimited 10 rest) :
    readOctet (Nat.toDigits 10 octet.toNat ++ rest) = some (octet, rest) := by
  have small : octet.toNat < 256 := octet.toNat_lt
  rw [readOctet, readNumber_toDigits (by decide) (by decide) (toDigits_ten_length small) delim]
  change (if octet.toNat < 256 then some (UInt8.ofNat octet.toNat, rest) else none) = _
  rw [if_pos small, UInt8.ofNat_toNat]

lemma readSegment_displaySegment (seg : UInt16) (delim : Delimited 16 rest) :
    readSegment (displaySegment seg ++ rest) = some (seg, rest) := by
  rw [readSegment, displaySegment, readNumber_toDigits (by decide) (by decide)
    (toDigits_sixteen_length seg.toNat_lt) delim]
  change some (UInt16.ofNat seg.toNat, rest) = _
  rw [UInt16.ofNat_toNat]

lemma readIpv4Addr_display (addr : Ipv4Addr) (delim : Delimited 10 rest) :
    readIpv4Addr (addr.display ++ rest) = some (addr, rest) := by
  have dot : ∀ tail, Delimited 10 ('.' :: tail) := fun _ => delimited_of_head (by decide)
  simp [readIpv4Addr, Ipv4Addr.display, readSeparated, append_assoc,
    readOctet_toDigits _ (dot _), readOctet_toDigits _ delim]

lemma mem_of_mem_spanDigits_snd (mem : char ∈ (spanDigits radix text).2) : char ∈ text :=
  (dropWhile_suffix _).mem mem

lemma readOctet_rest_mem {octet : UInt8} (read : readOctet text = some (octet, rest))
    (mem : char ∈ rest) : char ∈ text := by
  unfold readOctet readNumber at read
  simp only at read
  split at read
  next value found foundEq =>
    split at foundEq
    · cases foundEq
    · split at foundEq
      · cases foundEq
      · cases foundEq
        split at read
        · cases read
          exact mem_of_mem_spanDigits_snd mem
        · cases read
  next => cases read

lemma readIpv4Addr_eq_none (noDot : '.' ∉ text) : readIpv4Addr text = none := by
  unfold readIpv4Addr
  simp only [readSeparated, if_true]
  cases first : readOctet text with
  | none => rfl
  | some found =>
    obtain ⟨octet, rest⟩ := found
    cases rest with
    | nil => rfl
    | cons char tail =>
      have notDot : char ≠ '.' := by
        rintro rfl
        exact noDot (readOctet_rest_mem first (mem_cons_self ..))
      simp [notDot]

def laterSegments (segments : List UInt16) : List Char :=
  segments.flatMap fun segment => ':' :: displaySegment segment

lemma displaySegments_cons (seg : UInt16) (segs : List UInt16) :
    displaySegments (seg :: segs) = displaySegment seg ++ laterSegments segs := by
  induction segs generalizing seg with
  | nil => simp [displaySegments, laterSegments]
  | cons next rest ih =>
    have shape : displaySegments (seg :: next :: rest) =
        displaySegment seg ++ ':' :: displaySegments (next :: rest) := by
      simp [displaySegments, intercalate_cons_cons]
    rw [shape, ih]
    rfl

def isSegmentChar (char : Char) : Prop :=
  isDigit 16 char = true ∨ char = ':'

lemma mem_displaySegment {seg : UInt16} (mem : char ∈ displaySegment seg) :
    isSegmentChar char :=
  .inl (isDigit_of_mem_toDigits (by decide) (by decide) mem)

lemma mem_laterSegments (mem : char ∈ laterSegments segs) : isSegmentChar char := by
  obtain ⟨seg, _, inside⟩ := mem_flatMap.mp mem
  rcases mem_cons.mp inside with colon | digit
  · exact .inr colon
  · exact mem_displaySegment digit

lemma mem_displaySegments (mem : char ∈ displaySegments segs) : isSegmentChar char := by
  cases segs with
  | nil => simp [displaySegments] at mem
  | cons seg rest =>
    rw [displaySegments_cons, mem_append] at mem
    rcases mem with first | later
    · exact mem_displaySegment first
    · exact mem_laterSegments later

lemma dot_not_isSegmentChar : ¬isSegmentChar '.' := by
  unfold isSegmentChar
  decide

lemma dot_notMem_laterSegments (segs : List UInt16) : '.' ∉ laterSegments segs :=
  fun mem => dot_not_isSegmentChar (mem_laterSegments mem)

lemma dot_notMem_displaySegments (segs : List UInt16) : '.' ∉ displaySegments segs :=
  fun mem => dot_not_isSegmentChar (mem_displaySegments mem)

def GroupsEnd (rest : List Char) : Prop :=
  rest = [] ∨ ∃ tail, rest = ':' :: ':' :: tail

lemma readSegment_colon (rest : List Char) : readSegment (':' :: rest) = none := rfl

lemma readSeparated_groupsEnd (ends : GroupsEnd rest) (first : Bool) :
    readSeparated ':' first readSegment rest = none := by
  rcases ends with rfl | ⟨tail, rfl⟩
  · cases first <;> rfl
  · cases first with
    | true => exact readSegment_colon (':' :: tail)
    | false => simpa [readSeparated] using readSegment_colon tail

lemma delimited_laterSegments (segs : List UInt16) (ends : GroupsEnd rest) :
    Delimited 16 (laterSegments segs ++ rest) := by
  cases segs with
  | nil =>
    rcases ends with rfl | ⟨tail, rfl⟩
    · exact delimited_nil 16
    · exact delimited_of_head (by decide)
  | cons seg others => exact delimited_of_head (by decide)

lemma readSeparated_ipv4_none (noDot : '.' ∉ text) (first : Bool) :
    readSeparated ':' first readIpv4Addr text = none := by
  cases first with
  | true => exact readIpv4Addr_eq_none noDot
  | false =>
    cases text with
    | nil => rfl
    | cons char rest =>
      have restNoDot : '.' ∉ rest := fun mem => noDot (mem_cons_of_mem _ mem)
      simp [readSeparated, readIpv4Addr_eq_none restNoDot]

lemma readGroups_succ {first : Bool} (noDot : '.' ∉ text) :
    readGroups first (slots + 1) text =
      match readSeparated ':' first readSegment text with
      | some (seg, rest) =>
        (seg :: (readGroups false slots rest).1, (readGroups false slots rest).2)
      | none => ([], false, text) := by
  cases read : readSeparated ':' first readSegment text with
  | none | some pair => simp [readGroups, readSeparated_ipv4_none noDot, read]

lemma readGroups_printed (first : Bool) (fits : segs.length ≤ slots) (ends : GroupsEnd rest)
    (noDot : '.' ∉ rest) :
    readGroups first slots
      ((if first then displaySegments segs else laterSegments segs) ++ rest) =
        (segs, false, rest) := by
  induction segs generalizing slots first with
  | nil =>
    have nothing : (if first then displaySegments [] else laterSegments []) ++ rest = rest := by
      cases first <;> rfl
    rw [nothing]
    cases slots with
    | zero => rfl
    | succ slots => rw [readGroups_succ noDot, readSeparated_groupsEnd ends]
  | cons seg others ih =>
    cases slots with
    | zero => simp at fits
    | succ slots =>
      have step := readSegment_displaySegment seg (delimited_laterSegments others ends)
      have read : readSeparated ':' first readSegment
          ((if first then displaySegments (seg :: others)
            else laterSegments (seg :: others)) ++ rest) =
          some (seg, laterSegments others ++ rest) := by
        cases first with
        | true => simpa [readSeparated, displaySegments_cons] using step
        | false => simpa [readSeparated, laterSegments] using step
      have restRead := ih false (by simpa using fits)
      simp only [Bool.false_eq_true, if_false] at restRead
      rw [readGroups_succ ?_, read]
      · simp only [restRead]
      · rw [mem_append]
        rintro (mem | mem)
        · cases first with
          | true => exact dot_notMem_displaySegments _ mem
          | false => exact dot_notMem_laterSegments _ mem
        · exact noDot mem

def IsZeroSpan (segments : List UInt16) (span : ZeroSpan) : Prop :=
  ∀ index, span.start ≤ index → index < span.start + span.len → segments[index]? = some 0

lemma isZeroSpan_empty (segs : List UInt16) (start : Nat) :
    IsZeroSpan segs { start, len := 0 } := by
  intro index above below
  change start ≤ index at above
  change index < start + 0 at below
  omega

lemma isZeroSpan_scan {done : List UInt16} (rest : List UInt16)
    {longest cur : ZeroSpan} (split : segs = done ++ rest)
    (longestOk : IsZeroSpan segs longest) (currentOk : IsZeroSpan segs cur)
    (currentEnds : cur.len = 0 ∨ cur.start + cur.len = done.length) :
    IsZeroSpan segs (ZeroSpan.scan rest done.length longest cur) := by
  induction rest generalizing done longest cur with
  | nil => exact longestOk
  | cons seg rest ih =>
    have split' : segs = (done ++ [seg]) ++ rest := by simp [split]
    have nextIndex : done.length + 1 = (done ++ [seg]).length := by simp
    rw [ZeroSpan.scan, nextIndex]
    by_cases zero : seg = 0
    · rw [if_pos zero]
      have atHere : segs[done.length]? = some 0 := by
        rw [split, getElem?_append_right (le_refl _)]
        simp [zero]
      have extendedOk : IsZeroSpan segs
          { start := if cur.len = 0 then done.length else cur.start
            len := cur.len + 1 } := by
        intro index above below
        by_cases fresh : cur.len = 0
        · have same : index = done.length := by
            simp only [fresh, if_true] at above below
            omega
          rw [same, atHere]
        · simp only [fresh, if_false] at above below
          have runEnds : cur.start + cur.len = done.length := currentEnds.resolve_left fresh
          by_cases last : index = done.length
          · rw [last, atHere]
          · exact currentOk index above (by omega)
      refine ih split' ?_ extendedOk (.inr ?_)
      · by_cases longer : longest.len < cur.len + 1
        · rwa [if_pos longer]
        · rwa [if_neg longer]
      · by_cases fresh : cur.len = 0
        · simp [fresh]
        · have runEnds : cur.start + cur.len = done.length := currentEnds.resolve_left fresh
          simp only [fresh, if_false, length_append, length_singleton]
          omega
    · rw [if_neg zero]
      exact ih split' longestOk (isZeroSpan_empty segs 0) (.inl rfl)

lemma isZeroSpan_zeroes (addr : Ipv6Addr) : IsZeroSpan addr.segments addr.zeroes :=
  isZeroSpan_scan addr.segments (nil_append _).symm (isZeroSpan_empty _ 0)
    (isZeroSpan_empty _ 0) (.inl rfl)

lemma rebuild_segments {span : ZeroSpan} (zeros : IsZeroSpan segs span)
    (ne : 0 < span.len) : segs.take span.start ++
        List.replicate (segs.length - (segs.take span.start).length -
          (segs.drop (span.start + span.len)).length) 0 ++
        segs.drop (span.start + span.len) = segs := by
  have inside : span.start + span.len ≤ segs.length := by
    have last := zeros (span.start + span.len - 1) (by omega) (by omega)
    obtain ⟨bound, _⟩ := List.getElem?_eq_some_iff.mp last
    omega
  have gap : segs.length - (segs.take span.start).length -
      (segs.drop (span.start + span.len)).length = span.len := by
    rw [length_take, length_drop]
    omega
  have middle : List.replicate span.len 0 = (segs.drop span.start).take span.len := by
    apply ext_getElem?
    intro index
    by_cases small : index < span.len
    · rw [getElem?_replicate_of_lt small, getElem?_take_of_lt small,
        getElem?_drop, zeros _ (by omega) (by omega)]
    · rw [getElem?_eq_none (by simp; omega), getElem?_eq_none (by simp; omega)]
  rw [gap, middle, append_assoc, ← drop_drop, take_append_drop, take_append_drop]

lemma ofSegments_segments (addr : Ipv6Addr) :
    Ipv6Addr.ofSegments addr.segments = some addr := by
  rw [Ipv6Addr.ofSegments, dif_pos addr.eight]

lemma high_ofHalves (high low : UInt16) : (Ipv4Addr.ofHalves high low).high = high := by
  apply UInt16.toNat_inj.mp
  have bound : high.toNat < 65536 := high.toNat_lt
  simp only [Ipv4Addr.high, Ipv4Addr.ofHalves, UInt8.toNat_ofNat', UInt16.toNat_ofNat']
  omega

lemma low_ofHalves (high low : UInt16) : (Ipv4Addr.ofHalves high low).low = low := by
  apply UInt16.toNat_inj.mp
  have bound : low.toNat < 65536 := low.toNat_lt
  simp only [Ipv4Addr.low, Ipv4Addr.ofHalves, UInt8.toNat_ofNat', UInt16.toNat_ofNat']
  omega

variable {mapped : Ipv4Addr} {left right : IpAddr}

lemma segments_of_mapped (found : addr.toIpv4Mapped = some mapped) :
    addr.segments = [0, 0, 0, 0, 0, 0xffff, mapped.high, mapped.low] := by
  unfold Ipv6Addr.toIpv4Mapped at found
  split at found
  next high low shape =>
    have mappedEq : Ipv4Addr.ofHalves high low = mapped := Option.some.inj found
    rw [shape, ← mappedEq, high_ofHalves, low_ofHalves]
  next => cases found

lemma readGroups_mapped (mapped : Ipv4Addr) : readGroups true 7 ("ffff:".toList ++ mapped.display) =
    ([0xffff, mapped.high, mapped.low], true, []) := by
  have tail : readIpv4Addr mapped.display = some (mapped, []) := by
    simpa using readIpv4Addr_display mapped (delimited_nil 10)
  have notV4 : readIpv4Addr ("ffff:".toList ++ mapped.display) = none := rfl
  have seg : readSegment ("ffff:".toList ++ mapped.display) =
      some (0xffff, ':' :: mapped.display) := by
    have delim : Delimited 16 (':' :: mapped.display) := delimited_of_head (by decide)
    exact readSegment_displaySegment 0xffff delim
  rw [readGroups]
  simp only [readSeparated, if_true, notV4, ite_self, seg, readGroups, tail,
    Bool.false_eq_true, if_false]
  rfl

lemma readIpv6Addr_compressed {unread : List Char} {head tail : List UInt16} {flag : Bool}
    (short : head.length < 8)
    (headRead : readGroups true 8 text = (head, false, ':' :: ':' :: rest))
    (tailRead : readGroups true (8 - (head.length + 1)) rest = (tail, flag, unread)) :
    readIpv6Addr text = (Ipv6Addr.ofSegments
      (head ++ List.replicate (8 - head.length - tail.length) 0 ++ tail)).map (·, unread) := by
  have notEight : ¬head.length = 8 := by omega
  unfold readIpv6Addr
  rw [headRead]
  simp only [notEight, if_false, tailRead, Bool.false_eq_true]

lemma readIpv6Addr_mapped (isMapped : addr.toIpv4Mapped = some mapped) :
    readIpv6Addr ("::ffff:".toList ++ mapped.display) = some (addr, []) := by
  have headRead : readGroups true 8 ("::ffff:".toList ++ mapped.display) =
      ([], false, ':' :: ':' :: ("ffff:".toList ++ mapped.display)) := rfl
  have rebuilt : ([] : List UInt16) ++ List.replicate 5 0 ++
      [0xffff, mapped.high, mapped.low] = addr.segments := by
    rw [segments_of_mapped isMapped]
    rfl
  rw [readIpv6Addr_compressed (by decide) headRead (readGroups_mapped mapped)]
  change (Ipv6Addr.ofSegments ([] ++ List.replicate 5 0 ++ _)).map _ = _
  rw [rebuilt, ofSegments_segments]
  rfl

lemma readIpv6Addr_zeroes (run : 1 < addr.zeroes.len) :
    readIpv6Addr (displaySegments (addr.segments.take addr.zeroes.start) ++ ':' :: ':' ::
        displaySegments (addr.segments.drop (addr.zeroes.start + addr.zeroes.len))) =
      some (addr, []) := by
  have zeros := isZeroSpan_zeroes addr
  have length := addr.eight
  have headShort : (addr.segments.take addr.zeroes.start).length < 8 := by
    have last := zeros (addr.zeroes.start + addr.zeroes.len - 1) (by omega) (by omega)
    obtain ⟨bound, _⟩ := List.getElem?_eq_some_iff.mp last
    rw [length_take]
    omega
  have tailFits : (addr.segments.drop (addr.zeroes.start + addr.zeroes.len)).length ≤
      8 - ((addr.segments.take addr.zeroes.start).length + 1) := by
    rw [length_take, length_drop]
    omega
  have tailNoDot := dot_notMem_displaySegments
    (addr.segments.drop (addr.zeroes.start + addr.zeroes.len))
  have headRead := readGroups_printed true (Nat.le_of_lt headShort)
    (.inr ⟨displaySegments (addr.segments.drop
      (addr.zeroes.start + addr.zeroes.len)), rfl⟩) (by simpa using tailNoDot)
  have tailRead := readGroups_printed true tailFits (.inl rfl) (not_mem_nil)
  rw [if_pos rfl] at headRead
  rw [if_pos rfl, append_nil] at tailRead
  have rebuilt := rebuild_segments zeros (by omega)
  rw [length] at rebuilt
  rw [readIpv6Addr_compressed headShort headRead tailRead, rebuilt, ofSegments_segments]
  rfl

lemma readIpv6Addr_plain (addr : Ipv6Addr) :
    readIpv6Addr (displaySegments addr.segments) = some (addr, []) := by
  have read := readGroups_printed true (Nat.le_of_eq addr.eight) (.inl rfl) not_mem_nil
  rw [if_pos rfl, append_nil] at read
  unfold readIpv6Addr
  rw [read]
  simp only [addr.eight, if_true, ofSegments_segments, Option.map_some]

lemma readIpv6Addr_display (addr : Ipv6Addr) :
    readIpv6Addr addr.display = some (addr, []) := by
  unfold Ipv6Addr.display
  cases isMapped : addr.toIpv4Mapped with
  | some mapped => exact readIpv6Addr_mapped isMapped
  | none =>
    by_cases run : 1 < addr.zeroes.len
    · simp only [run, if_true]
      exact readIpv6Addr_zeroes run
    · simp only [run, if_false]
      exact readIpv6Addr_plain addr

lemma readIpv4Addr_ipv6_display (addr : Ipv6Addr) : readIpv4Addr addr.display = none := by
  unfold Ipv6Addr.display
  cases addr.toIpv4Mapped with
  | some mapped => rfl
  | none =>
    apply readIpv4Addr_eq_none
    by_cases run : 1 < addr.zeroes.len
    · simp only [run, if_true, mem_append, mem_cons, not_or]
      exact ⟨dot_notMem_displaySegments _, by decide, by decide, dot_notMem_displaySegments _⟩
    · simp only [run, if_false]
      exact dot_notMem_displaySegments _

/-- A printed address is parsed back. -/
lemma IpAddr.parse_toText (addr : IpAddr) : parse addr.toText = some addr := by
  unfold parse toText readIpAddr
  rw [String.toList_ofList]
  cases addr with
  | v4 addr =>
    have read := readIpv4Addr_display addr (delimited_nil 10)
    rw [append_nil] at read
    simp only [display, read]
  | v6 addr =>
    simp only [display, readIpv4Addr_ipv6_display, readIpv6Addr_display, Option.map_some]

lemma IpAddr.toText_injective (same : left.toText = right.toText) : left = right := by
  have parsed := parse_toText left
  rw [same, parse_toText right] at parsed
  exact (Option.some.inj parsed).symm

lemma Ipv4Addr.notMem_display {mark : Char} (notDigit : isDigit 10 mark = false)
    (notDot : mark ≠ '.') (addr : Ipv4Addr) : mark ∉ addr.display := by
  have digits : ∀ number, mark ∉ Nat.toDigits 10 number := by
    intro number mem
    simp [isDigit_of_mem_toDigits (by decide) (by decide) mem] at notDigit
  simp [Ipv4Addr.display, digits, notDot]

lemma IpAddr.slash_notMem_display (addr : IpAddr) : '/' ∉ addr.display := by
  have segs : ∀ parts, '/' ∉ displaySegments parts := by
    intro parts mem
    have slash := mem_displaySegments mem
    unfold isSegmentChar at slash
    exact absurd slash (by decide)
  cases addr with
  | v4 addr => exact addr.notMem_display rfl (by decide)
  | v6 addr =>
    simp only [display, Ipv6Addr.display]
    split
    next mapped _ => simp [mapped.notMem_display (show isDigit 10 '/' = false from rfl)]
    next =>
      split
      · simp [segs]
      · exact segs _

lemma IpAddr.orderKey_injective (same : left.orderKey = right.orderKey) : left = right := by
  cases left with
  | v4 left =>
    cases right with
    | v4 right =>
      simp only [orderKey, List.cons.injEq, UInt8.toNat_inj, true_and, and_true] at same
      obtain ⟨a, b, c, d⟩ := same
      cases left
      cases right
      simp_all
    | v6 right => simp [orderKey] at same
  | v6 left =>
    cases right with
    | v4 right => simp [orderKey] at same
    | v6 right =>
      have segs : left.segments = right.segments := by
        apply map_injective_iff.mpr (fun _ _ => UInt16.toNat_inj.mp)
        exact (List.cons.inj same).2
      cases left
      cases right
      cases segs
      rfl

end Ngxora.Net
