/-
Header maps.
-/

import Ngxora.Base.Text

namespace Ngxora.Http

open List

abbrev HeaderValue := List UInt8

def isVisibleAscii (byte : UInt8) : Bool :=
  (decide (32 ≤ byte.toNat) && decide (byte.toNat < 127)) || byte == 9

def HeaderValue.toStr (value : HeaderValue) : Option String :=
  if value.all isVisibleAscii then
    some (String.ofList (value.map fun byte => Char.ofNat byte.toNat))
  else none

def HeaderValue.ofText (text : String) : HeaderValue :=
  text.toList.map fun char => UInt8.ofNat char.toNat

/-- Several values under one name, in the order they were added. Names are in lower case. -/
structure HeaderMap where
  entries : List (String × HeaderValue) := []
  deriving DecidableEq

namespace HeaderMap

def getAll (headers : HeaderMap) (name : String) : List HeaderValue :=
  (headers.entries.filter fun entry => entry.1 = name).map Prod.snd

def get (headers : HeaderMap) (name : String) : Option HeaderValue :=
  (headers.getAll name).head?

def containsKey (headers : HeaderMap) (name : String) : Bool :=
  headers.entries.any fun entry => entry.1 = name

def remove (headers : HeaderMap) (name : String) : HeaderMap where
  entries := headers.entries.filter fun entry => entry.1 ≠ name

def insert (headers : HeaderMap) (name : String) (value : HeaderValue) : HeaderMap where
  entries := (headers.remove name).entries ++ [(name, value)]

def append (headers : HeaderMap) (name : String) (value : HeaderValue) : HeaderMap where
  entries := headers.entries ++ [(name, value)]

lemma getAll_remove (headers : HeaderMap) (name other : String) :
    (headers.remove name).getAll other = if other = name then [] else headers.getAll other := by
  rw [getAll, remove, filter_filter]
  by_cases same : other = name
  · rw [if_pos same, map_eq_nil_iff, filter_eq_nil_iff]
    intro entry _
    simp [same]
  · rw [if_neg same]
    congr 1
    apply filter_congr
    intro entry _
    by_cases here : entry.1 = other
    · simp [here, same]
    · simp [here]

lemma getAll_insert (headers : HeaderMap) (name other : String) (value : HeaderValue) :
    (headers.insert name value).getAll other =
      if other = name then [value] else headers.getAll other := by
  have split : (headers.insert name value).getAll other =
      (headers.remove name).getAll other ++ ({ entries := [(name, value)] } : HeaderMap).getAll other := by
    simp [getAll, insert]
  rw [split, getAll_remove]
  by_cases same : other = name
  · simp [same, getAll]
  · simp [same, getAll, Ne.symm same]

lemma getAll_foldl_insert (entries : List (String × HeaderValue)) (start : HeaderMap)
    (name : String) :
    (entries.foldl (fun headers entry => headers.insert entry.1 entry.2) start).getAll name =
      (((HeaderMap.mk entries).getAll name).getLast?.map fun value => [value]).getD
        (start.getAll name) := by
  induction entries generalizing start with
  | nil => rfl
  | cons entry rest ih =>
    obtain ⟨entryName, value⟩ := entry
    rw [foldl_cons, ih, getAll_insert]
    by_cases same : name = entryName
    · subst same
      have values : (HeaderMap.mk ((name, value) :: rest)).getAll name =
          value :: (HeaderMap.mk rest).getAll name := by simp [getAll]
      rw [values, getLast?_cons, if_pos rfl]
      cases (HeaderMap.mk rest).getAll name |>.getLast? <;> rfl
    · have values : (HeaderMap.mk ((entryName, value) :: rest)).getAll name =
          (HeaderMap.mk rest).getAll name := by simp [getAll, Ne.symm same]
      rw [values, if_neg same]

lemma containsKey_iff {headers : HeaderMap} {name : String} :
    headers.containsKey name = true ↔ headers.getAll name ≠ [] := by
  simp [containsKey, getAll]

end HeaderMap
end Ngxora.Http
