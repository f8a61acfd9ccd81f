import Mathlib.Data.List.Basic
import CcUtils.Python.Exceptions

namespace CcUtils.Python.Str

/-- `s.split(sep)` for a one-character separator: the pieces between separators, empty
pieces kept, so `"".split(sep)` is `[""]`. -/
def split (s : String) (sep : Char) : List String :=
  (s.toList.splitOn sep).map String.mk

open CcUtils.Python.Exceptions in
def unpackError (n : Nat) : PyExc :=
  if n < 2 then ⟨.valueError, "not enough values to unpack (expected 2, got " ++ toString n ++ ")"⟩
  else ⟨.valueError, "too many values to unpack (expected 2)"⟩

theorem split_injective (sep : Char) {s t : String} (h : split s sep = split t sep) : s = t := by
  have hs : s.toList.splitOn sep = t.toList.splitOn sep :=
    List.map_injective_iff.mpr (fun _ _ hab => congrArg String.data hab) h
  have hl : s.toList = t.toList := calc
    s.toList = [sep].intercalate (s.toList.splitOn sep) := (List.intercalate_splitOn s.toList sep).symm
    _ = [sep].intercalate (t.toList.splitOn sep) := by rw [hs]
    _ = t.toList := List.intercalate_splitOn t.toList sep
  cases s
  cases t
  exact congrArg String.mk hl

def lstrip (s : String) (c : Char) : String :=
  ⟨s.toList.dropWhile (· = c)⟩

def replace (s : String) (old new : Char) : String :=
  ⟨s.toList.map fun c => if c = old then new else c⟩

/-- Lower-casing of ASCII letters: what `str.lower` does to ASCII text. The models take
`str.lower` itself as a parameter `lower`; their examples on ASCII names use this one. -/
def asciiLower (s : String) : String := ⟨s.toList.map Char.toLower⟩

def dirname (p : String) : String :=
  let head := (p.toList.reverse.dropWhile (· ≠ '/')).reverse
  if head.all (· = '/') then ⟨head⟩ else ⟨(head.reverse.dropWhile (· = '/')).reverse⟩

/-- `os.path.join(a, b)` (POSIX): `b` when it is absolute, else `b` after `a` and a separator
that is left out when `a` is empty or ends with one. -/
def pathJoin (a b : String) : String :=
  if b.toList.head? = some '/' then b
  else if a = "" ∨ a.toList.getLast? = some '/' then a ++ b
  else a ++ "/" ++ b

theorem pathJoin_relative (a : String) {b : String} (hb : b.toList.head? ≠ some '/') :
    pathJoin a b = pathJoin a "" ++ b := by
  have he : ("" : String).toList.head? ≠ some '/' := by decide
  unfold pathJoin
  rw [if_neg hb, if_neg he]
  split_ifs <;> simp [String.append_assoc]

theorem pathJoin_empty {a : String} (ha : a ≠ "") (hlast : a.toList.getLast? ≠ some '/') :
    pathJoin a "" = a ++ "/" := by
  rw [pathJoin, if_neg (by decide), if_neg (not_or.mpr ⟨ha, hlast⟩), String.append_empty]

def endswith (s suffix : String) : Bool := suffix.toList.isSuffixOf s.toList

def isInfixOf (sub : List Char) : List Char → Bool
  | [] => sub.isPrefixOf []
  | c :: cs => sub.isPrefixOf (c :: cs) || isInfixOf sub cs

def contains (s sub : String) : Bool := isInfixOf sub.toList s.toList

theorem endswith_iff (s suffix : String) : endswith s suffix = true ↔ suffix.toList <:+ s.toList :=
  List.isSuffixOf_iff_suffix

theorem isInfixOf_iff (sub : List Char) : ∀ l, isInfixOf sub l = true ↔ sub <:+: l
  | [] => by simp [isInfixOf, List.isPrefixOf_iff_prefix]
  | c :: cs => by
    rw [isInfixOf, Bool.or_eq_true, List.isPrefixOf_iff_prefix, isInfixOf_iff sub cs,
      List.infix_cons_iff]

theorem contains_iff (s sub : String) : contains s sub = true ↔ sub.toList <:+: s.toList :=
  isInfixOf_iff _ _

def setRepr : List String → String
  | [] => "set()"
  | xs => "\x7b" ++ ", ".intercalate (xs.map fun x => "\x27" ++ x ++ "\x27") ++ "\x7d"

theorem not_mem_replace {s : String} {old new : Char} (h : old ≠ new) :
    old ∉ (replace s old new).data := by
  simp only [replace, List.mem_map, not_exists, not_and]
  intro c _ hc
  split at hc
  · exact h hc.symm
  · exact ‹¬c = old› hc

theorem append_sep_inj {α : Type} {sep : α} :
    ∀ {x x' s s' : List α}, sep ∉ x → sep ∉ x' → x ++ sep :: s = x' ++ sep :: s' →
      x = x' ∧ s = s'
  | [], [], _, _, _, _, h => ⟨rfl, (List.cons.inj h).2⟩
  | [], _ :: _, _, _, _, h', h => absurd ((List.cons.inj h).1 ▸ List.mem_cons_self _ _) h'
  | _ :: _, [], _, _, h, _, heq => absurd ((List.cons.inj heq).1 ▸ List.mem_cons_self _ _) h
  | _ :: _, _ :: _, _, _, h, h', heq => by
    obtain ⟨rfl, htail⟩ := List.cons.inj heq
    obtain ⟨rfl, rfl⟩ := append_sep_inj (fun hm => h (List.mem_cons_of_mem _ hm))
      (fun hm => h' (List.mem_cons_of_mem _ hm)) htail
    exact ⟨rfl, rfl⟩

/-- `str.encode(encoding)` and `bytes.decode(encoding)` over the byte strings `β`: the decode
refuses a byte string with the message of its `UnicodeDecodeError`, and inverts the encode
where it accepts. -/
structure Codec (β : Type) where
  encode : String → β
  decode : β → Except String String
  decode_encode : ∀ s, decode (encode s) = .ok s
  encode_of_decode : ∀ b s, decode b = .ok s → encode s = b

theorem Codec.decode_eq_ok_iff {β : Type} (codec : Codec β) {b : β} {s : String} :
    codec.decode b = .ok s ↔ b = codec.encode s :=
  ⟨fun h => (codec.encode_of_decode b s h).symm, fun h => h ▸ codec.decode_encode s⟩

def scalarValue (u : UInt32) : Except String Char :=
  if h : u.isValidChar then .ok ⟨u, h⟩
  else .error ("\x27utf-32\x27 codec can\x27t decode code point " ++ toString u.toNat)

theorem mapM_scalarValue_val : ∀ cs : List Char, (cs.map Char.val).mapM scalarValue = .ok cs
  | [] => rfl
  | c :: cs => by
    simp only [List.map_cons, List.mapM_cons, scalarValue, dif_pos c.valid, mapM_scalarValue_val cs]
    rfl

theorem map_val_of_mapM_scalarValue :
    ∀ {us : List UInt32} {cs : List Char}, us.mapM scalarValue = .ok cs → cs.map Char.val = us
  | [], cs, h => by cases h; rfl
  | u :: us, cs, h => by
    rw [List.mapM_cons] at h
    cases hu : scalarValue u with
    | error e => rw [hu] at h; cases h
    | ok c =>
      cases hus : us.mapM scalarValue with
      | error e => rw [hu, hus] at h; cases h
      | ok cs' =>
        rw [hu, hus] at h
        obtain rfl : c :: cs' = cs := Except.ok.inj h
        have hc : c.val = u := by
          unfold scalarValue at hu
          split at hu <;> cases hu
          rfl
        rw [List.map_cons, map_val_of_mapM_scalarValue hus, hc]

def utf32 : Codec (List UInt32) where
  encode s := s.toList.map Char.val
  decode us := String.mk <$> us.mapM scalarValue
  decode_encode s := by
    show String.mk <$> (s.toList.map Char.val).mapM scalarValue = .ok s
    rw [mapM_scalarValue_val]
    rfl
  encode_of_decode us s h := by
    change String.mk <$> us.mapM scalarValue = .ok s at h
    show s.toList.map Char.val = us
    cases hus : us.mapM scalarValue with
    | error e => rw [hus] at h; cases h
    | ok cs =>
      rw [hus] at h
      obtain rfl : String.mk cs = s := Except.ok.inj h
      exact map_val_of_mapM_scalarValue hus

example : split "org/repo" '/' = ["org", "repo"] := by decide

example : lstrip "/org/repo" '/' = "org/repo" := by decide

example : dirname "cache/repo/org/component-1.0" = "cache/repo/org" := by decide

example : pathJoin "cache/" "repo" = "cache/repo" ∧ pathJoin "cache" "/repo" = "/repo" := by
  decide

example : endswith "refs/heads/feature-master" "master" = true := by decide

example : contains "fix [skip ci]" "[skip ci]" = true := by decide

example : utf32.decode [0x61, 0xD800] = .error "\x27utf-32\x27 codec can\x27t decode code point 55296" :=
  rfl

end CcUtils.Python.Str
