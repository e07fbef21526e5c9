import Mathlib.Data.List.Find
import Mathlib.Data.List.Nodup
import Admissions.Notification

namespace Admissions

namespace Template

/-- A key that can stand in a placeholder: it holds no brace. -/
def Braceless (key : List Char) : Prop := '\x7b' ∉ key ∧ '\x7d' ∉ key

instance : DecidablePred Braceless := fun _ => inferInstanceAs (Decidable (_ ∧ _))

/-- A placeholder pattern: two opening braces, a key without braces, two closing braces. -/
def IsPlaceholder (pat : List Char) : Prop :=
  ∃ key, Braceless key ∧ pat = '\x7b' :: '\x7b' :: (key ++ ['\x7d', '\x7d'])

def Unambiguous (pairs : List (List Char × List Char)) : Prop :=
  ∀ x ∈ pairs, ∀ y ∈ pairs, ∀ text, occursAt text x = true → occursAt text y = true → x = y

theorem placeholder_toList (key : String) :
    (placeholder key).toList = '\x7b' :: '\x7b' :: (key.toList ++ ['\x7d', '\x7d']) := by
  simp [placeholder]

theorem isPlaceholder_placeholder {key : String} (braceless : Braceless key.toList) :
    IsPlaceholder (placeholder key).toList :=
  ⟨key.toList, braceless, placeholder_toList key⟩

theorem placeholder_injective {a b : String}
    (same : (placeholder a).toList = (placeholder b).toList) : a = b :=
  String.toList_inj.mp (by simpa [placeholder_toList] using same)

theorem prefix_of_occursAt {text : List Char} {pair : List Char × List Char}
    (occurs : occursAt text pair = true) : pair.1 <+: text := by
  simp only [occursAt, Bool.and_eq_true, Bool.not_eq_eq_eq_not, Bool.not_true,
    List.isEmpty_eq_false_iff] at occurs
  exact List.isPrefixOf_iff_prefix.mp occurs.2

/-- A key without braces ends at the first closing brace after it. -/
theorem Braceless.eq_of_append {k₁ k₂ r₁ r₂ : List Char} (h₁ : Braceless k₁) (h₂ : Braceless k₂)
    (same : k₁ ++ '\x7d' :: r₁ = k₂ ++ '\x7d' :: r₂) : k₁ = k₂ := by
  have before : ∀ {k : List Char} (r : List Char), Braceless k →
      (k ++ '\x7d' :: r).takeWhile (· != '\x7d') = k := by
    intro k r braceless
    have open_ : ∀ c ∈ k, (c != '\x7d') = true := fun c mem => by
      simpa using fun closing : c = '\x7d' => braceless.2 (closing ▸ mem)
    simp [List.takeWhile_append_of_pos open_]
  calc k₁ = (k₁ ++ '\x7d' :: r₁).takeWhile (· != '\x7d') := (before r₁ h₁).symm
    _ = (k₂ ++ '\x7d' :: r₂).takeWhile (· != '\x7d') := by rw [same]
    _ = k₂ := before r₂ h₂

theorem Braceless.open_not_mem {key : List Char} (braceless : Braceless key) :
    '\x7b' ∉ key ++ ['\x7d', '\x7d'] := by
  simpa using braceless.1

theorem IsPlaceholder.eq_of_prefixes {p q text : List Char} (hp : IsPlaceholder p)
    (hq : IsPlaceholder q) (pt : p <+: text) (qt : q <+: text) : p = q := by
  obtain ⟨k₁, b₁, rfl⟩ := hp
  obtain ⟨k₂, b₂, rfl⟩ := hq
  -- one of the two is a prefix of the other, and the keys end at the same `}`
  have keys : k₁ = k₂ := by
    rcases List.prefix_or_prefix_of_prefix pt qt with ⟨r, joined⟩ | ⟨r, joined⟩
    · have same : k₁ ++ '\x7d' :: '\x7d' :: r = k₂ ++ '\x7d' :: ['\x7d'] := by simpa using joined
      exact b₁.eq_of_append b₂ same
    · have same : k₂ ++ '\x7d' :: '\x7d' :: r = k₁ ++ '\x7d' :: ['\x7d'] := by simpa using joined
      exact (b₂.eq_of_append b₁ same).symm
  rw [keys]

/-- A placeholder that occurs before an opening `{{` ends before it. -/
theorem IsPlaceholder.prefix_of_append_open {pat u t : List Char} (hp : IsPlaceholder pat)
    (nonempty : u ≠ []) (occurs : pat <+: u ++ '\x7b' :: '\x7b' :: t) : pat <+: u := by
  rcases Nat.le_total pat.length u.length with short | long
  · exact List.prefix_of_prefix_length_le occurs (List.prefix_append u _) short
  -- otherwise `u` is a proper part of the placeholder, and the `{{` after `u` starts in it
  obtain ⟨m, rfl⟩ := List.prefix_of_prefix_length_le (List.prefix_append u _) occurs long
  rw [List.prefix_append_right_inj] at occurs
  rcases List.prefix_cons_iff.mp occurs with rfl | ⟨m', rfl, rest⟩
  · simp
  obtain ⟨key, braceless, shape⟩ := hp
  obtain ⟨c, u', rfl⟩ := List.exists_cons_of_ne_nil nonempty
  simp only [List.cons_append, List.cons.injEq] at shape
  have inside : '\x7b' ∈ key ++ ['\x7d', '\x7d'] := by
    rcases u' with _ | ⟨c', u''⟩
    · -- the second `{` of the text stands first in the key
      simp only [List.nil_append, List.cons.injEq] at shape
      rcases List.prefix_cons_iff.mp rest with empty | ⟨r, starts, -⟩
      · simp [empty] at shape
      · simp [← shape.2.2, starts]
    · simp only [List.cons_append, List.cons.injEq] at shape
      simp [← shape.2.2]
  exact absurd inside braceless.open_not_mem

section Scan

variable {pairs : List (List Char × List Char)}

theorem replaceAll_nil : replaceAll pairs [] = [] := by
  rw [replaceAll]

theorem replaceAll_of_found {c : Char} {cs pat rep : List Char}
    (found : pairs.find? (occursAt (c :: cs)) = some (pat, rep)) :
    replaceAll pairs (c :: cs) = rep ++ replaceAll pairs (cs.drop (pat.length - 1)) := by
  rw [replaceAll, found]

theorem replaceAll_of_missed {c : Char} {cs : List Char}
    (missed : pairs.find? (occursAt (c :: cs)) = none) :
    replaceAll pairs (c :: cs) = c :: replaceAll pairs cs := by
  rw [replaceAll, missed]

theorem drop_le_of_found {c : Char} {cs pat rep : List Char}
    (found : pairs.find? (occursAt (c :: cs)) = some (pat, rep)) :
    pat.length - 1 ≤ cs.length := by
  have within := (prefix_of_occursAt (List.find?_some found)).length_le
  simp only [List.length_cons] at within
  omega

theorem occursAt_append_open {pair : List Char × List Char} (hp : IsPlaceholder pair.1)
    (c : Char) (cs t : List Char) :
    occursAt (c :: (cs ++ '\x7b' :: '\x7b' :: t)) pair = occursAt (c :: cs) pair := by
  simp only [occursAt]
  congr 1
  rw [Bool.eq_iff_iff, List.isPrefixOf_iff_prefix, List.isPrefixOf_iff_prefix]
  exact ⟨hp.prefix_of_append_open (List.cons_ne_nil c cs), List.prefix_append_of_prefix⟩

/-- A placeholder occurs only where a `{` stands. -/
theorem occursAt_of_ne_open {pair : List Char × List Char} (hp : IsPlaceholder pair.1)
    {c : Char} (ne : c ≠ '\x7b') (s : List Char) : occursAt (c :: s) pair = false := by
  obtain ⟨key, -, shape⟩ := hp
  simp [occursAt, shape, List.isPrefixOf, ne.symm]

/-- A placeholder occurs only where `{` is followed by another `{`. -/
theorem occursAt_open_of_ne_open {pair : List Char × List Char} (hp : IsPlaceholder pair.1)
    {c : Char} (ne : c ≠ '\x7b') (s : List Char) :
    occursAt ('\x7b' :: c :: s) pair = false := by
  obtain ⟨key, -, shape⟩ := hp
  simp [occursAt, shape, List.isPrefixOf, ne.symm]

/-- The scan never reads across the `{{` that opens a placeholder: the text before it is
filled on its own. -/
theorem replaceAll_append_open (placeholders : ∀ x ∈ pairs, IsPlaceholder x.1)
    (u t : List Char) :
    replaceAll pairs (u ++ '\x7b' :: '\x7b' :: t) =
      replaceAll pairs u ++ replaceAll pairs ('\x7b' :: '\x7b' :: t) := by
  have same : ∀ c cs, pairs.find? (occursAt (c :: (cs ++ '\x7b' :: '\x7b' :: t))) =
      pairs.find? (occursAt (c :: cs)) := fun c cs =>
    List.find?_congr fun x mem => occursAt_append_open (placeholders x mem) c cs t
  -- `fun_induction` follows the scan of `u`; the scan of `u ++ t` takes the same steps
  fun_induction replaceAll pairs u with
  | case1 => simp
  | case2 c cs pat rep found ih =>
    rw [List.cons_append, replaceAll_of_found ((same c cs).trans found),
      List.drop_append_of_le_length (drop_le_of_found found), ih, List.append_assoc]
  | case3 c cs missed ih =>
    rw [List.cons_append, replaceAll_of_missed ((same c cs).trans missed), ih, List.cons_append]

theorem replaceAll_cons_of_none {c : Char} {s : List Char}
    (none : ∀ x ∈ pairs, occursAt (c :: s) x = false) :
    replaceAll pairs (c :: s) = c :: replaceAll pairs s :=
  replaceAll_of_missed (List.find?_eq_none.mpr fun x mem => by simp [none x mem])

theorem replaceAll_cons_of_ne_open (placeholders : ∀ x ∈ pairs, IsPlaceholder x.1) {c : Char}
    (ne : c ≠ '\x7b') (s : List Char) : replaceAll pairs (c :: s) = c :: replaceAll pairs s :=
  replaceAll_cons_of_none fun x mem => occursAt_of_ne_open (placeholders x mem) ne s

/-- Text without an opening brace is copied as it is. -/
theorem replaceAll_append_of_open_not_mem (placeholders : ∀ x ∈ pairs, IsPlaceholder x.1)
    {x : List Char} (plain : '\x7b' ∉ x) (w : List Char) :
    replaceAll pairs (x ++ w) = x ++ replaceAll pairs w := by
  induction x with
  | nil => rfl
  | cons c x ih =>
    rw [List.mem_cons, not_or] at plain
    rw [List.cons_append, replaceAll_cons_of_ne_open placeholders (Ne.symm plain.1), ih plain.2,
      List.cons_append]

theorem Unambiguous.perm {pairs' : List (List Char × List Char)} (unambiguous : Unambiguous pairs)
    (perm : pairs.Perm pairs') : Unambiguous pairs' :=
  fun x xm y ym text xo yo =>
    unambiguous x (perm.mem_iff.mpr xm) y (perm.mem_iff.mpr ym) text xo yo

/-- Where at most one pair occurs at a text, the scan finds the one that does. -/
theorem Unambiguous.find?_eq {x : List Char × List Char} {text : List Char}
    (unambiguous : Unambiguous pairs) (mem : x ∈ pairs) (occurs : occursAt text x = true) :
    pairs.find? (occursAt text) = some x := by
  cases h : pairs.find? (occursAt text) with
  | none => exact absurd occurs (List.find?_eq_none.mp h x mem)
  | some y => rw [unambiguous y (List.mem_of_find?_eq_some h) x mem text (List.find?_some h) occurs]

/-- A placeholder with a value is replaced by the value, which is not looked at again. -/
theorem replaceAll_placeholder_of_mem (unambiguous : Unambiguous pairs) {pat rep : List Char}
    (mem : (pat, rep) ∈ pairs) (nonempty : pat ≠ []) (w : List Char) :
    replaceAll pairs (pat ++ w) = rep ++ replaceAll pairs w := by
  obtain ⟨c, cs, rfl⟩ := List.exists_cons_of_ne_nil nonempty
  have occurs : occursAt (c :: (cs ++ w)) (c :: cs, rep) = true := by simp [occursAt]
  rw [List.cons_append, replaceAll_of_found (unambiguous.find?_eq mem occurs)]
  simp

/-- A placeholder without a value is kept as it is. -/
theorem replaceAll_placeholder_of_missing (placeholders : ∀ x ∈ pairs, IsPlaceholder x.1)
    {pat : List Char} (self : IsPlaceholder pat) (missing : ∀ x ∈ pairs, x.1 ≠ pat)
    (w : List Char) : replaceAll pairs (pat ++ w) = pat ++ replaceAll pairs w := by
  -- at the first `{` only the placeholder itself could occur, and it has no value
  have first : ∀ x ∈ pairs, occursAt (pat ++ w) x = false := by
    intro x mem
    by_contra occurs
    exact missing x mem <| (placeholders x mem).eq_of_prefixes self
      (prefix_of_occursAt (Bool.not_eq_false _ ▸ occurs)) (List.prefix_append _ w)
  obtain ⟨key, braceless, rfl⟩ := self
  -- after the second `{` come the key and `}}`, with no `{` that could open another
  obtain ⟨b, rest, body⟩ : ∃ b rest, key ++ ['\x7d', '\x7d'] = b :: rest :=
    List.exists_cons_of_ne_nil (by simp)
  have plain : '\x7b' ∉ b :: rest := body ▸ braceless.open_not_mem
  have second : ∀ x ∈ pairs, occursAt ('\x7b' :: b :: (rest ++ w)) x = false := fun x mem =>
    occursAt_open_of_ne_open (placeholders x mem) (List.ne_of_not_mem_cons plain).symm _
  rw [body] at first ⊢
  simp only [List.cons_append] at first ⊢
  rw [replaceAll_cons_of_none first, replaceAll_cons_of_none second]
  simpa using replaceAll_append_of_open_not_mem placeholders plain w

/-- Where at most one pattern occurs at any place, the order of the pairs does not matter. -/
theorem find?_occursAt_perm {pairs' : List (List Char × List Char)} (unambiguous : Unambiguous pairs)
    (perm : pairs.Perm pairs') (text : List Char) :
    pairs'.find? (occursAt text) = pairs.find? (occursAt text) := by
  cases h : pairs.find? (occursAt text) with
  | none =>
    exact List.find?_eq_none.mpr fun y mem => List.find?_eq_none.mp h y (perm.mem_iff.mpr mem)
  | some x =>
    exact (unambiguous.perm perm).find?_eq (perm.mem_iff.mp (List.mem_of_find?_eq_some h))
      (List.find?_some h)

theorem replaceAll_perm {pairs' : List (List Char × List Char)} (unambiguous : Unambiguous pairs)
    (perm : pairs.Perm pairs') (text : List Char) :
    replaceAll pairs' text = replaceAll pairs text := by
  fun_induction replaceAll pairs text with
  | case1 => exact replaceAll_nil
  | case2 c cs pat rep found ih =>
    rw [replaceAll_of_found ((find?_occursAt_perm unambiguous perm _).trans found), ih]
  | case3 c cs missed ih =>
    rw [replaceAll_of_missed ((find?_occursAt_perm unambiguous perm _).trans missed), ih]

end Scan

section Values

variable {values entries : List (String × String)}

/-- A values map as a replacer gets it: distinct keys, none of them holding a brace. -/
structure Fit (values : List (String × String)) : Prop where
  keys_nodup : (values.map Prod.fst).Nodup
  braceless : ∀ k ∈ values.map Prod.fst, Braceless k.toList

theorem Fit.perm (fit : Fit values) (perm : entries.Perm values) : Fit entries where
  keys_nodup := (perm.map Prod.fst).nodup_iff.mpr fit.keys_nodup
  braceless k mem := fit.braceless k ((perm.map Prod.fst).mem_iff.mp mem)

theorem Fit.placeholders (fit : Fit values) : ∀ x ∈ values.map replacement, IsPlaceholder x.1 := by
  intro x mem
  obtain ⟨e, member, rfl⟩ := List.mem_map.mp mem
  exact isPlaceholder_placeholder (fit.braceless e.1 (List.mem_map_of_mem member))

/-- Distinct keys without braces give placeholders of which at most one occurs anywhere. -/
theorem Fit.unambiguous (fit : Fit values) : Unambiguous (values.map replacement) := by
  intro x xm y ym text xo yo
  obtain ⟨e, em, rfl⟩ := List.mem_map.mp xm
  obtain ⟨f, fm, rfl⟩ := List.mem_map.mp ym
  have same := (fit.placeholders _ xm).eq_of_prefixes (fit.placeholders _ ym)
    (prefix_of_occursAt xo) (prefix_of_occursAt yo)
  rw [List.inj_on_of_nodup_map fit.keys_nodup em fm (placeholder_injective same)]

/-- The order in which `render` visits the values. -/
theorem render_eq_fillInOrder (text : String) :
    render text values = fillInOrder (values.mergeSort fun a b => decide (a.1 ≤ b.1)) text := rfl

theorem sorted_perm : (values.mergeSort fun a b => decide (a.1 ≤ b.1)).Perm values :=
  List.mergeSort_perm _ _

theorem fillInOrder_perm (fit : Fit values) (perm : entries.Perm values) (text : String) :
    fillInOrder entries text = render text values := by
  rw [render_eq_fillInOrder, fillInOrder, fillInOrder,
    replaceAll_perm fit.unambiguous (perm.map replacement).symm,
    replaceAll_perm fit.unambiguous (sorted_perm.map replacement).symm]

theorem fillInOrder_empty : fillInOrder entries "" = "" := by
  simp [fillInOrder, replaceAll_nil]

/-- A placeholder opens with `{{`. -/
theorem placeholder_append_toList (key w : String) :
    (placeholder key).toList ++ w.toList =
      '\x7b' :: '\x7b' :: (key.toList ++ ['\x7d', '\x7d'] ++ w.toList) := by
  simp [placeholder_toList]

/-- Filling the text around a placeholder: what comes before it is filled on its own. -/
theorem fillInOrder_around (fit : Fit entries) (u key w : String) :
    fillInOrder entries (u ++ placeholder key ++ w) = fillInOrder entries u ++
      String.ofList (replaceAll (entries.map replacement) ((placeholder key).toList ++ w.toList)) := by
  rw [fillInOrder, String.toList_append, String.toList_append, List.append_assoc,
    placeholder_append_toList, replaceAll_append_open fit.placeholders,
    ← placeholder_append_toList, String.ofList_append, fillInOrder]

/-- Every occurrence of a placeholder with a value becomes that value, as it is; the text
before it and the text after it are filled on their own. -/
theorem fillInOrder_placeholder_of_mem (fit : Fit entries) {key value : String}
    (mem : (key, value) ∈ entries) (u w : String) :
    fillInOrder entries (u ++ placeholder key ++ w) =
      fillInOrder entries u ++ value ++ fillInOrder entries w := by
  have found : ((placeholder key).toList, value.toList) ∈ entries.map replacement :=
    List.mem_map.mpr ⟨(key, value), mem, rfl⟩
  rw [fillInOrder_around fit, replaceAll_placeholder_of_mem fit.unambiguous found
    (by simp [placeholder_toList])]
  simp [fillInOrder, String.ofList_append, String.append_assoc]

/-- A placeholder whose key has no value stays as it is. -/
theorem fillInOrder_placeholder_of_missing (fit : Fit entries) {key : String}
    (braceless : Braceless key.toList) (missing : key ∉ entries.map Prod.fst) (u w : String) :
    fillInOrder entries (u ++ placeholder key ++ w) =
      fillInOrder entries u ++ placeholder key ++ fillInOrder entries w := by
  have other : ∀ x ∈ entries.map replacement, x.1 ≠ (placeholder key).toList := by
    intro x mem same
    obtain ⟨e, member, rfl⟩ := List.mem_map.mp mem
    exact missing (placeholder_injective same ▸ List.mem_map_of_mem member)
  rw [fillInOrder_around fit, replaceAll_placeholder_of_missing fit.placeholders
    (isPlaceholder_placeholder braceless) other]
  simp [fillInOrder, String.ofList_append, String.append_assoc]

/-- Filling a template is one pass from the left. Whichever order the values are visited
in, the result is the same; every placeholder with a value becomes that value as it is,
so text put in from a value is never filled again; and every placeholder without a value
stays. -/
theorem templates_filled_in_one_pass (keys : (values.map Prod.fst).Nodup)
    (braceless : ∀ k ∈ values.map Prod.fst, Braceless k.toList) :
    (∀ order : List (String × String), order.Perm values →
      ∀ text, fillInOrder order text = render text values) ∧
    (∀ u w key value, (key, value) ∈ values →
      render (u ++ placeholder key ++ w) values = render u values ++ value ++ render w values) ∧
    (∀ u w key, Braceless key.toList → key ∉ values.map Prod.fst →
      render (u ++ placeholder key ++ w) values =
        render u values ++ placeholder key ++ render w values) := by
  have fit : Fit values := ⟨keys, braceless⟩
  have sorted := fit.perm sorted_perm
  refine ⟨fun order perm text => fillInOrder_perm fit perm text, ?_, ?_⟩
  · intro u w key value mem
    simp only [render_eq_fillInOrder]
    exact fillInOrder_placeholder_of_mem sorted (sorted_perm.mem_iff.mpr mem) u w
  · intro u w key keyBraceless missing
    simp only [render_eq_fillInOrder]
    exact fillInOrder_placeholder_of_missing sorted keyBraceless
      (fun mem => missing ((sorted_perm.map Prod.fst).mem_iff.mp mem)) u w

/-- An applicant whose name is `{{schoolName}}` is greeted by that name, not by the
school's. -/
theorem applicant_named_placeholder_kept :
    render (placeholder "name") [("schoolName", "한빛고"), ("name", placeholder "schoolName")] =
      placeholder "schoolName" := by
  have filled := (@templates_filled_in_one_pass
    [("schoolName", "한빛고"), ("name", placeholder "schoolName")] (by decide) (by decide)).2.1
    "" "" "name" (placeholder "schoolName") (by simp)
  simpa [render_eq_fillInOrder, fillInOrder_empty] using filled

end Values

end Template

end Admissions
