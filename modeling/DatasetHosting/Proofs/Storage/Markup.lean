import DatasetHosting.Document.Json.Reader
import DatasetHosting.Proofs.Storage.Associations

/-!
# Proofs/Storage/Markup — names read back from a file store configuration

The configuration is read as markup: the text of an element is the character data behind its opening tag, up to
the next `<`, which has to close the element, and references in it are decoded.  The store's names are written
as they are, without references for the characters that markup keeps for itself.  So the bucket is read back
exactly if it holds neither `<` nor `&`, and the region likewise, as long as the bucket holds no tag of the
region's element (`NodeFile.filestoreConfig?_readable_iff`).

That other names are not read back is a matter of length: a `<` cuts the data short, and a reference is longer
than the character it stands for.
-/

namespace DatasetHosting

namespace Markup

open DatasetHosting.Text

variable {mark front behind cs ds rest : List Char} {pending : Option (List Char)}

/-! ## References -/

/-- The characters with a name. -/
def namedCharacters : List (String × Char) :=
  [("amp", '&'), ("lt", '<'), ("gt", '>'), ("quot", '"'), ("apos", '\'')]

/-- The character with the given number. -/
def character? (number : Nat) : Option Char :=
  if 0 < number ∧ number.isValidChar then some (Char.ofNat number) else none

/-- **What a reference stands for**, by the text between its `&` and its `;`. -/
def reference? : List Char → Option Char
  | '#' :: 'x' :: digits => (Json.hexValue? digits).bind character?
  | '#' :: digits => (readNat? digits).bind character?
  | name => namedCharacters.lookup (String.ofList name)

/-- Reads character data, where `pending` is what has been read of a reference, last character first. -/
def readData? : (pending : Option (List Char)) → List Char → Option (List Char)
  | none, [] => some []
  | some _, [] => none
  | none, c :: cs =>
    if c = '&' then readData? (some []) cs else (readData? none cs).map (c :: ·)
  | some name, c :: cs =>
    if c = ';' then
      match reference? name.reverse with
      | some d => (readData? none cs).map (d :: ·)
      | none => none
    else readData? (some (c :: name)) cs

/-- **Character data with its references decoded**, none if there is an `&` that starts none. -/
def decode? (data : List Char) : Option (List Char) :=
  readData? none data

theorem decode?_of_notMem (h : '&' ∉ cs) : decode? cs = some cs := by
  induction cs with
  | nil => rfl
  | cons c cs ih =>
    obtain ⟨hc, hcs⟩ := not_or.mp (mt List.mem_cons.mpr h)
    have hrest : readData? none cs = some cs := ih hcs
    rw [decode?, readData?, if_neg (Ne.symm hc), hrest, Option.map_some]

/-- Data stands for no more characters than it has, -/
theorem length_readData?_le (h : readData? pending cs = some ds) : ds.length ≤ cs.length := by
  induction cs generalizing pending ds with
  | nil =>
    cases pending with
    | none =>
      obtain rfl := Option.some.inj h
      exact le_rfl
    | some name => cases h
  | cons c cs ih =>
    have hstep {d : Char} (hmap : (readData? none cs).map (d :: ·) = some ds) :
        ds.length ≤ (c :: cs).length := by
      obtain ⟨others, hothers, rfl⟩ := Option.map_eq_some_iff.mp hmap
      exact Nat.succ_le_succ (ih hothers)
    cases pending with
    | none =>
      rw [readData?] at h
      split at h
      · exact (ih h).trans (Nat.le_succ _)
      · exact hstep h
    | some name =>
      rw [readData?] at h
      split at h
      · split at h
        · exact hstep h
        · cases h
      · exact (ih h).trans (Nat.le_succ _)

/-- and for fewer if there is a reference in it. -/
theorem length_decode?_lt (hmem : '&' ∈ cs) (h : decode? cs = some ds) : ds.length < cs.length := by
  induction cs generalizing ds with
  | nil => cases hmem
  | cons c cs ih =>
    rw [decode?, readData?] at h
    split at h
    · exact Nat.lt_succ_of_le (length_readData?_le h)
    · next hc =>
      obtain ⟨others, hothers, rfl⟩ := Option.map_eq_some_iff.mp h
      have hrest : '&' ∈ cs := (List.mem_cons.mp hmem).resolve_left (Ne.symm hc)
      exact Nat.succ_lt_succ (ih hrest hothers)

/-! ## Elements -/

/-- What stands behind the first place that `mark` stands at. -/
def behind? (mark : List Char) : (text : List Char) → Option (List Char)
  | [] => mark.isPrefixOf? []
  | c :: cs =>
    match mark.isPrefixOf? (c :: cs) with
    | some rest => some rest
    | none => behind? mark cs

/-- **The text of the first element with the name.** -/
def elementText? (name document : String) : Option String :=
  match behind? ("<" ++ name ++ ">").toList document.toList with
  | none => none
  | some inside =>
    if ("</" ++ name ++ ">").toList.isPrefixOf (inside.dropWhile (· != '<')) then
      (decode? (inside.takeWhile (· != '<'))).map String.ofList
    else none

theorem behind?_mark (mark rest : List Char) : behind? mark (mark ++ rest) = some rest := by
  have hhere : mark.isPrefixOf? (mark ++ rest) = some rest :=
    List.isPrefixOf?_eq_some_iff_append_eq.mpr rfl
  cases htext : mark ++ rest with
  | nil => rw [behind?, ← htext, hhere]
  | cons c text => rw [behind?, ← htext, hhere]

/-- **The mark starts nowhere in the text**, whatever comes behind. -/
def Avoids (mark : List Char) : (text : List Char) → Prop
  | [] => True
  | c :: cs => (¬mark <+: c :: cs ∧ ¬c :: cs <+: mark) ∧ Avoids mark cs

instance decidableAvoids (mark : List Char) : (text : List Char) → Decidable (Avoids mark text)
  | [] => inferInstanceAs (Decidable True)
  | c :: cs =>
    have := decidableAvoids mark cs
    inferInstanceAs (Decidable ((¬mark <+: c :: cs ∧ ¬c :: cs <+: mark) ∧ Avoids mark cs))

theorem behind?_append (h : Avoids mark front) (rest : List Char) :
    behind? mark (front ++ rest) = behind? mark rest := by
  induction front with
  | nil => rfl
  | cons c front ih =>
    obtain ⟨⟨hlong, hshort⟩, hlater⟩ := h
    have hnone : mark.isPrefixOf? (c :: (front ++ rest)) = none := by
      refine Option.eq_none_iff_forall_ne_some.mpr fun after hafter => ?_
      have hmark : mark <+: c :: front ++ rest :=
        ⟨after, List.isPrefixOf?_eq_some_iff_append_eq.mp hafter⟩
      rcases List.prefix_or_prefix_of_prefix hmark (List.prefix_append (c :: front) rest) with h | h
      · exact hlong h
      · exact hshort h
    rw [List.cons_append, behind?, hnone]
    exact ih hlater

/-- A tag that is not in the text does not start in it either where another tag comes behind: it would have to
go on with the `<` of that tag, which its name does not hold. -/
theorem behind?_append_lt {name : List Char} (hname : '<' ∉ name) (h : ¬ '<' :: name <:+: front)
    (rest : List Char) :
    behind? ('<' :: name) (front ++ '<' :: rest) = behind? ('<' :: name) ('<' :: rest) := by
  induction front with
  | nil => rfl
  | cons c front ih =>
    have hnone : ('<' :: name).isPrefixOf? (c :: (front ++ '<' :: rest)) = none := by
      refine Option.eq_none_iff_forall_ne_some.mpr fun after hafter => h ?_
      obtain ⟨extra, hextra, -⟩ | ⟨extra, hextra, hrest⟩ := List.append_eq_append_iff.mp
        (List.isPrefixOf?_eq_some_iff_append_eq.mp hafter : _ = c :: front ++ '<' :: rest)
      · exact hextra ▸ (List.prefix_append _ extra).isInfix
      · obtain ⟨-, hname'⟩ := List.cons_eq_cons.mp hextra
        cases extra with
        | nil =>
          have hsame : '<' :: name = c :: front := hextra.trans (List.append_nil _)
          exact hsame ▸ List.infix_rfl
        | cons d extra =>
          obtain ⟨rfl, -⟩ := List.cons_eq_cons.mp hrest
          have hmark : '<' ∈ name := hname' ▸ List.mem_append_right front List.mem_cons_self
          exact absurd hmark hname
    rw [List.cons_append, behind?, hnone]
    exact ih fun hlater => h (hlater.trans (List.suffix_cons c front).isInfix)

/-! ## Plain names -/

/-- **The text holds nothing that markup keeps for itself.** -/
def IsPlain (text : String) : Prop :=
  '<' ∉ text.toList ∧ '&' ∉ text.toList

instance (text : String) : Decidable (IsPlain text) :=
  inferInstanceAs (Decidable (_ ∧ _))

theorem takeWhile_append_lt (cs rest : List Char) :
    (cs ++ '<' :: rest).takeWhile (· != '<') = cs.takeWhile (· != '<') := by
  induction cs with
  | nil => rfl
  | cons c cs ih => by_cases hc : c = '<' <;> simp [hc, ih]

/-- **Data that stands for itself** is plain: what is read is no longer than the data. -/
theorem decode?_takeWhile_eq_iff :
    decode? (cs.takeWhile (· != '<')) = some cs ↔ '<' ∉ cs ∧ '&' ∉ cs := by
  constructor
  · intro hread
    have hdata := List.takeWhile_prefix (l := cs) (· != '<')
    have hwhole := hdata.eq_of_length_le (length_readData?_le hread)
    refine ⟨fun hlt => ?_, fun hamp => ?_⟩
    · have hkept := List.takeWhile_eq_self_iff.mp hwhole '<' hlt
      cases hkept
    · rw [hwhole] at hread
      exact lt_irrefl _ (length_decode?_lt hamp hread)
  · rintro ⟨hlt, hamp⟩
    rw [List.takeWhile_eq_self_iff.mpr (forall_bne_of_notMem hlt), decode?_of_notMem hamp]

/-- **A name between its tags is read back** exactly if it is plain. -/
theorem elementText?_eq_iff {name document value : String}
    (h : behind? ("<" ++ name ++ ">").toList document.toList =
      some (value.toList ++ (("</" ++ name ++ ">").toList ++ rest))) :
    elementText? name document = some value ↔ IsPlain value := by
  obtain ⟨closing, hclosing⟩ : ∃ closing, ("</" ++ name ++ ">").toList = '<' :: closing :=
    ⟨('/' :: name.toList) ++ ['>'], by simp⟩
  rw [hclosing, List.cons_append] at h
  simp only [elementText?, h, hclosing, takeWhile_append_lt]
  rw [IsPlain, ← decode?_takeWhile_eq_iff]
  constructor
  · intro hread
    split at hread
    · obtain ⟨ds, hds, rfl⟩ := Option.map_eq_some_iff.mp hread
      rw [String.toList_ofList] at hds ⊢
      exact hds
    · cases hread
  · intro hdecode
    have hkept := forall_bne_of_notMem (decode?_takeWhile_eq_iff.mp hdecode).1
    have hcloses : ('<' :: closing).isPrefixOf
        ((value.toList ++ '<' :: (closing ++ rest)).dropWhile (· != '<')) = true := by
      rw [List.dropWhile_append_of_pos hkept, List.dropWhile_cons_of_neg (by simp)]
      exact List.isPrefixOf_iff_prefix.mpr (List.prefix_append _ _)
    rw [if_pos hcloses, hdecode, Option.map_some, String.ofList_toList]

end Markup

namespace NodeFile

open Markup

variable {store : ObjectStore} {bindings : List Binding} {file : NodeFile}

/-! ## The names of a store -/

/-- What stands in front of the bucket's element. -/
def beforeBucket : List Char :=
  (lines ["<?xml version=\"1.1\" ?>", "<filestore-config>", "  <filestores>",
    "    <s3-filestore id=\"s3Bucket\">", "      <config>"]).toList ++ "        ".toList

/-- The configuration starts with the elements of the store. -/
theorem exists_toList_contents (h : filestoreConfig? store bindings = some file) :
    ∃ rest, file.contents.toList = beforeBucket ++ ("<bucket-name>".toList ++ (store.bucket.toList ++
      ("</bucket-name>".toList ++ ('\n' :: "        ".toList ++ ("<region>".toList ++
        (store.region.apiName.toList ++ ("</region>".toList ++ rest))))))) := by
  have hbucket : "        <bucket-name>".toList = "        ".toList ++ "<bucket-name>".toList := rfl
  have hregion : "        <region>".toList = "        ".toList ++ "<region>".toList := rfl
  have hline : "\n".toList = ['\n'] := rfl
  rw [contents_filestoreConfig? h, storeLines, beforeBucket]
  simp only [List.cons_append, lines_cons, String.toList_append, List.append_assoc, hbucket, hregion,
    hline, List.nil_append]
  exact ⟨_, rfl⟩

/-- The first element of its name is the bucket's. -/
theorem exists_behind?_bucket (h : filestoreConfig? store bindings = some file) :
    ∃ rest, behind? ("<" ++ "bucket-name" ++ ">").toList file.contents.toList =
      some (store.bucket.toList ++ (("</" ++ "bucket-name" ++ ">").toList ++ rest)) := by
  obtain ⟨rest, hcontents⟩ := exists_toList_contents h
  have hbefore : Avoids "<bucket-name>".toList beforeBucket := by decide +kernel
  exact ⟨_, (congrArg (behind? "<bucket-name>".toList) hcontents).trans
    ((behind?_append hbefore _).trans (behind?_mark _ _))⟩

theorem elementText?_bucket_iff (h : filestoreConfig? store bindings = some file) :
    elementText? "bucket-name" file.contents = some store.bucket ↔ IsPlain store.bucket := by
  obtain ⟨rest, hbehind⟩ := exists_behind?_bucket h
  exact elementText?_eq_iff hbehind

/-- A bucket may hold an element of its own in front of the region's. -/
theorem elementText?_region_iff (h : filestoreConfig? store bindings = some file)
    (hbucket : ¬"<region>".toList <:+: store.bucket.toList) :
    elementText? "region" file.contents = some store.region.apiName ↔
      IsPlain store.region.apiName := by
  obtain ⟨rest, hcontents⟩ := exists_toList_contents h
  have hbefore : Avoids "<region>".toList beforeBucket := by decide +kernel
  have hopen : Avoids "<region>".toList "<bucket-name>".toList := by decide +kernel
  have hclose : Avoids "<region>".toList "</bucket-name>".toList := by decide +kernel
  have hline : Avoids "<region>".toList ('\n' :: "        ".toList) := by decide +kernel
  have htag : '<' ∉ "region>".toList := by decide +kernel
  have hbehind := behind?_mark "<region>".toList
    (store.region.apiName.toList ++ ("</region>".toList ++ rest))
  rw [← behind?_append hline, ← behind?_append hclose] at hbehind
  have hskip := (behind?_append_lt htag hbucket _).trans hbehind
  exact elementText?_eq_iff ((congrArg (behind? "<region>".toList) hcontents).trans
    ((behind?_append hbefore _).trans ((behind?_append hopen _).trans hskip)))

/-- **The configuration is read back** where something is bound in the object store: the bucket exactly if it is
plain, and the region exactly if its name is, as far as the bucket does not stand in its way. -/
theorem filestoreConfig?_readable_iff (store : ObjectStore)
    (hstored : ∃ binding ∈ bindings, binding.placement = .objectStore) :
    ∃ file, filestoreConfig? store bindings = some file ∧
      (elementText? "bucket-name" file.contents = some store.bucket ↔ IsPlain store.bucket) ∧
      (¬"<region>".toList <:+: store.bucket.toList →
        (elementText? "region" file.contents = some store.region.apiName ↔
          IsPlain store.region.apiName)) := by
  have hany : bindings.any (·.placement == .objectStore) = true := by
    obtain ⟨binding, hbinding, hplacement⟩ := hstored
    exact List.any_eq_true.mpr ⟨binding, hbinding, beq_iff_eq.mpr hplacement⟩
  rw [← isSome_filestoreConfig? store] at hany
  obtain ⟨file, hfile⟩ := Option.isSome_iff_exists.mp hany
  exact ⟨file, hfile, elementText?_bucket_iff hfile, elementText?_region_iff hfile⟩

/-- Quotes are plain, and so is a `>`. -/
theorem filestoreConfig?_readable_quoted :
    (∃ binding ∈ [(⟨.avatars, .objectStore, "s3://\"b\">/avatars"⟩ : Binding)],
        binding.placement = .objectStore) ∧
      ∃ file, filestoreConfig? ⟨"\"b\">", ⟨"EU_WEST_1"⟩⟩
          [⟨.avatars, .objectStore, "s3://\"b\">/avatars"⟩] = some file ∧
        elementText? "bucket-name" file.contents = some "\"b\">" ∧
        elementText? "region" file.contents = some "eu-west-1" := by
  have hstored : ∃ binding ∈ [(⟨.avatars, .objectStore, "s3://\"b\">/avatars"⟩ : Binding)],
      binding.placement = .objectStore := ⟨_, List.mem_cons_self, rfl⟩
  obtain ⟨file, hfile, hbucket, hregion⟩ :=
    filestoreConfig?_readable_iff ⟨"\"b\">", ⟨"EU_WEST_1"⟩⟩ hstored
  have hname : (⟨"EU_WEST_1"⟩ : Region).apiName = "eu-west-1" := by decide +kernel
  rw [hname] at hregion
  exact ⟨hstored, file, hfile, hbucket.mpr (by decide +kernel),
    (hregion (by decide +kernel)).mpr (by decide +kernel)⟩

/-- A `<` in the bucket cuts its name short, and the element is not closed there. -/
theorem filestoreConfig?_unreadable :
    ((filestoreConfig? ⟨"a<b", ⟨"EU_WEST_1"⟩⟩ [⟨.avatars, .objectStore, "s3://a<b/avatars"⟩]).map
        (elementText? "bucket-name" ·.contents)) = some none ∧
      ¬∀ store bindings file, (∃ binding ∈ bindings, binding.placement = .objectStore) →
        filestoreConfig? store bindings = some file →
          elementText? "bucket-name" file.contents = some store.bucket ∧
          elementText? "region" file.contents = some store.region.apiName := by
  have hstored : ∃ binding ∈ [(⟨.avatars, .objectStore, "s3://a<b/avatars"⟩ : Binding)],
      binding.placement = .objectStore := ⟨_, List.mem_cons_self, rfl⟩
  have hread : ((filestoreConfig? ⟨"a<b", ⟨"EU_WEST_1"⟩⟩
      [⟨.avatars, .objectStore, "s3://a<b/avatars"⟩]).map
        (elementText? "bucket-name" ·.contents)) = some none := by
    cases hfile : filestoreConfig? ⟨"a<b", ⟨"EU_WEST_1"⟩⟩
        [⟨.avatars, .objectStore, "s3://a<b/avatars"⟩] with
    | none => cases hfile
    | some file =>
      obtain ⟨rest, hbehind⟩ := exists_behind?_bucket hfile
      rw [Option.map_some, elementText?, hbehind]
      rfl
  refine ⟨hread, fun hall => ?_⟩
  obtain ⟨file, hfile, hnone⟩ := Option.map_eq_some_iff.mp hread
  have hbucket := (hall _ _ file hstored hfile).1
  rw [hnone] at hbucket
  cases hbucket

end NodeFile

end DatasetHosting
