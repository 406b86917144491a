import FormRules.Loading
import FormRules.Proofs.Builtin
import Mathlib.Data.List.Induction

/-!
# Layers of the catalog

A directory *offers* a catalog file if the file is there, can be read, is a TOML
document and has the shape of a catalog.  Otherwise it is *skipped*, and there are
four reasons for that (`Files.Skipped`), one for each step on which the next one
depends.

The template of a validator stands in the last file that has one for it.  If none
has, it is the built-in template, and if that is missing too, the fallback
(`Files.Supplies`).  Files are laid over the catalog one after the other, so the
proof follows the list of directories.  A directory without an entry for the
validator leaves what was there (`get?_addLayer_of_silent`), and so do any number
of them (`get?_foldl_addLayer_of_silent`).

A directory that is skipped leaves the whole catalog, and can as well be missing
from the list (`loadCatalog_filter`).
-/

namespace FormRules

theorem Catalog.get?_merge (c : Catalog) (file : CatalogFile) (validator : String) :
    (c.merge file).templates.get? validator =
      (file.messages.get? validator).or (c.templates.get? validator) :=
  OrderedMap.get?_insertAll validator file.messages.nodup c.templates

namespace Files

/-! ## What a directory offers -/

/-- The directory has a catalog file. -/
def Offers (files : Files) (directory : Path) (file : CatalogFile) : Prop :=
  ∃ text root, files.read? (catalogPath directory) = some text ∧ Toml.read? text = some root ∧
    CatalogFile.ofToml? root = some file

/-- The directory has no catalog file. -/
inductive Skipped (files : Files) (directory : Path) : Prop where
  /-- There is nothing at its path. -/
  | absent : files.present (catalogPath directory) = false → Skipped files directory
  /-- What is there cannot be read as text. -/
  | unreadable : files.present (catalogPath directory) = true →
      files.read? (catalogPath directory) = none → Skipped files directory
  /-- Its text is no TOML document. -/
  | notToml {text : String} : files.read? (catalogPath directory) = some text →
      Toml.read? text = none → Skipped files directory
  /-- Its document is not of the shape of a catalog. -/
  | misshapen {text : String} {root : TomlEntries} :
      files.read? (catalogPath directory) = some text → Toml.read? text = some root →
        CatalogFile.ofToml? root = none → Skipped files directory

variable {files : Files} {directory : Path} {file : CatalogFile}

theorem present_of_read? {path : Path} {text : String} (h : files.read? path = some text) :
    files.present path = true := by
  rw [read?, Option.bind_eq_some_iff] at h
  obtain ⟨place, hplace, -⟩ := h
  rw [present, hplace]
  rfl

theorem layer?_of_read? {text : String} (h : files.read? (catalogPath directory) = some text) :
    files.layer? directory =
      some ((CatalogFile.parse (some (catalogPath directory)) text).mapError .catalog) := by
  rw [layer?, present_of_read? h, if_pos rfl, loadCatalogFile, Files.text, h]
  rfl

theorem Offers.layer? (h : files.Offers directory file) :
    files.layer? directory = some (.ok file) := by
  obtain ⟨text, root, htext, hroot, hfile⟩ := h
  rw [layer?_of_read? htext, CatalogFile.parse, hroot, Option.bind_some, hfile]
  rfl

theorem Skipped.layer?_ne (h : files.Skipped directory) (file : CatalogFile) :
    files.layer? directory ≠ some (.ok file) := by
  cases h with
  | absent habsent =>
    rw [layer?, habsent]
    exact nofun
  | unreadable hpresent hread =>
    rw [layer?, hpresent, if_pos rfl, loadCatalogFile, Files.text, hread]
    exact nofun
  | notToml hread hroot =>
    rw [layer?_of_read? hread, CatalogFile.parse, hroot]
    exact nofun
  | misshapen hread hroot hfile =>
    rw [layer?_of_read? hread, CatalogFile.parse, hroot, Option.bind_some, hfile]
    exact nofun

/-- A directory has a catalog file or is skipped. -/
theorem offers_or_skipped (files : Files) (directory : Path) :
    (∃ file, files.Offers directory file) ∨ files.Skipped directory := by
  cases htext : files.read? (catalogPath directory) with
  | none =>
    cases hpresent : files.present (catalogPath directory) with
    | false => exact .inr (.absent hpresent)
    | true => exact .inr (.unreadable hpresent htext)
  | some text =>
    cases hroot : Toml.read? text with
    | none => exact .inr (.notToml htext hroot)
    | some root =>
      cases hfile : CatalogFile.ofToml? root with
      | none => exact .inr (.misshapen htext hroot hfile)
      | some file => exact .inl ⟨file, text, root, htext, hroot, hfile⟩

theorem skipped_iff : files.Skipped directory ↔ ∀ file, ¬ files.Offers directory file := by
  constructor
  · exact fun h file offers => h.layer?_ne file offers.layer?
  · intro h
    exact (files.offers_or_skipped directory).resolve_left fun ⟨file, offers⟩ => h file offers

/-! ## One layer -/

theorem addLayer_of_offers (h : files.Offers directory file) (c : Catalog) :
    files.addLayer c directory = c.merge file := by
  rw [addLayer, h.layer?]

theorem addLayer_of_skipped (h : files.Skipped directory) (c : Catalog) :
    files.addLayer c directory = c := by
  rw [addLayer]
  split
  · next file hlayer => exact absurd hlayer (h.layer?_ne file)
  · rfl

/-- The directory has no template for the validator. -/
def Silent (files : Files) (directory : Path) (validator : String) : Prop :=
  ∀ file, files.Offers directory file → file.messages.get? validator = none

variable {validator template : String}

theorem Skipped.silent (h : files.Skipped directory) (validator : String) :
    files.Silent directory validator :=
  fun file offers => absurd offers (skipped_iff.1 h file)

theorem get?_addLayer_of_silent (h : files.Silent directory validator) (c : Catalog) :
    (files.addLayer c directory).templates.get? validator = c.templates.get? validator := by
  rcases files.offers_or_skipped directory with ⟨file, offers⟩ | skipped
  · rw [addLayer_of_offers offers, Catalog.get?_merge, h file offers, Option.none_or]
  · rw [addLayer_of_skipped skipped]

theorem get?_foldl_addLayer_of_silent {directories : List Path}
    (h : ∀ d ∈ directories, files.Silent d validator) (c : Catalog) :
    (directories.foldl files.addLayer c).templates.get? validator =
      c.templates.get? validator := by
  induction directories generalizing c with
  | nil => rfl
  | cons d rest ih =>
    rw [List.foldl_cons, ih fun d' hd' => h d' (List.mem_cons_of_mem d hd'),
      get?_addLayer_of_silent (h d List.mem_cons_self)]

/-! ## All layers -/

/-- The template of a validator, told by the layers. -/
inductive Supplies (files : Files) (directories : List Path) (validator : String) : String → Prop
    where
  /-- A file has the template, and no later file has one for the validator. -/
  | layer {before after : List Path} {directory : Path} {file : CatalogFile} {template : String} :
      directories = before ++ directory :: after → files.Offers directory file →
        file.messages.get? validator = some template →
          (∀ d ∈ after, files.Silent d validator) → Supplies files directories validator template
  /-- No file has a template for the validator, which has a built-in one. -/
  | builtin {template : String} : (∀ d ∈ directories, files.Silent d validator) →
      Catalog.builtin.templates.get? validator = some template →
        Supplies files directories validator template
  /-- There is no template for the validator. -/
  | fallback : (∀ d ∈ directories, files.Silent d validator) →
      Catalog.builtin.templates.get? validator = none →
        Supplies files directories validator Catalog.fallback

variable {directories : List Path}

theorem Supplies.template_eq (h : files.Supplies directories validator template) :
    (files.loadCatalog directories).template validator = template := by
  rw [Catalog.template, loadCatalog]
  cases h with
  | @layer before after directory file _ hsplit offers hentry silent =>
    rw [hsplit, List.foldl_append, List.foldl_cons, get?_foldl_addLayer_of_silent silent,
      addLayer_of_offers offers, Catalog.get?_merge, hentry]
    rfl
  | builtin silent hentry =>
    rw [get?_foldl_addLayer_of_silent silent, hentry]
    rfl
  | fallback silent hentry =>
    rw [get?_foldl_addLayer_of_silent silent, hentry]
    rfl

/-- Layers after a silent one supply what they would without it. -/
theorem Supplies.append_silent (h : files.Supplies directories validator template)
    (silent : files.Silent directory validator) :
    files.Supplies (directories ++ [directory]) validator template := by
  have all : ∀ {ds : List Path}, (∀ d ∈ ds, files.Silent d validator) →
      ∀ d ∈ ds ++ [directory], files.Silent d validator := by
    intro ds hds d hd
    rcases List.mem_append.1 hd with hd | hd
    · exact hds d hd
    · rwa [List.mem_singleton.1 hd]
  cases h with
  | @layer before after last file _ hsplit offers hentry later =>
    have hlonger : directories ++ [directory] = before ++ last :: (after ++ [directory]) := by
      rw [hsplit, List.append_assoc, List.cons_append]
    exact .layer hlonger offers hentry (all later)
  | builtin none hentry => exact .builtin (all none) hentry
  | fallback none hentry => exact .fallback (all none) hentry

theorem exists_supplies (files : Files) (directories : List Path) (validator : String) :
    ∃ template, files.Supplies directories validator template := by
  induction directories using List.reverseRecOn with
  | nil =>
    cases h : Catalog.builtin.templates.get? validator with
    | some template => exact ⟨template, .builtin nofun h⟩
    | none => exact ⟨_, .fallback nofun h⟩
  | append_singleton earlier directory ih =>
    by_cases silent : files.Silent directory validator
    · obtain ⟨template, h⟩ := ih
      exact ⟨template, h.append_silent silent⟩
    · simp only [Silent, not_forall] at silent
      obtain ⟨file, offers, hentry⟩ := silent
      obtain ⟨template, htemplate⟩ := Option.ne_none_iff_exists'.1 hentry
      exact ⟨template, .layer rfl offers htemplate nofun⟩

theorem supplies_iff : files.Supplies directories validator template ↔
    (files.loadCatalog directories).template validator = template := by
  constructor
  · exact Supplies.template_eq
  · rintro rfl
    obtain ⟨template, h⟩ := files.exists_supplies directories validator
    rwa [h.template_eq]

/-- Directories that are skipped can be taken out of the list. -/
theorem loadCatalog_filter {keep : Path → Bool}
    (h : ∀ d ∈ directories, keep d = false → files.Skipped d) :
    files.loadCatalog (directories.filter keep) = files.loadCatalog directories := by
  rw [loadCatalog, loadCatalog]
  generalize Catalog.builtin = c
  induction directories generalizing c with
  | nil => rfl
  | cons d rest ih =>
    have hrest := ih fun d' hd' => h d' (List.mem_cons_of_mem d hd')
    cases hd : keep d with
    | true => rw [List.filter_cons_of_pos hd, List.foldl_cons, List.foldl_cons, hrest]
    | false =>
      rw [List.filter_cons_of_neg (by simp [hd]), List.foldl_cons,
        addLayer_of_skipped (h d List.mem_cons_self hd), hrest]

/-- The template of a validator is the one that the last file with an entry for it supplies, or the
built-in one, or the fallback.  A directory is skipped exactly if it offers no catalog file, and
skipped directories can be taken out of the list.  The built-in validators are registered with these
templates. -/
theorem catalog_of_layers (files : Files) (directories : List Path) :
    (∀ validator template, files.Supplies directories validator template ↔
      (files.loadCatalog directories).template validator = template) ∧
    (∀ directory, files.Skipped directory ↔ ∀ file, ¬ files.Offers directory file) ∧
    (∀ keep : Path → Bool, (∀ d ∈ directories, keep d = false → files.Skipped d) →
      files.loadCatalog (directories.filter keep) = files.loadCatalog directories) ∧
    ∀ v ∈ Builtin.all, ∀ template, files.Supplies directories v.1 template →
      (Registry.withBuiltins (files.loadCatalog directories)).lookup v.1 =
        some ⟨v.1, v.2, template⟩ := by
  refine ⟨fun _ _ => supplies_iff, fun _ => skipped_iff, fun _ h => loadCatalog_filter h, ?_⟩
  intro v hv template supplies
  have hfind : Entries.find? v.1 Builtin.all = some v.2 :=
    Entries.find?_eq_some_of_mem (by decide) hv
  rw [Registry.lookup_withBuiltins, hfind, supplies.template_eq]
  rfl

/-- Two files with an entry for `required`, and after them a directory without a file, one whose
file is no TOML document, and one whose file cannot be read. -/
theorem catalog_of_layers_skipped :
    let files : Files :=
      ⟨fun p => if p = catalogPath ⟨"empty"⟩ then none else some p, fun steps =>
        if steps = (catalogPath ⟨"old"⟩).steps then
          some "messages.required = \"Old\"\nmessages.min = \"Short\""
        else if steps = (catalogPath ⟨"new"⟩).steps then some "messages.required = \"New\""
        else if steps = (catalogPath ⟨"broken"⟩).steps then some "messages" else none⟩
    let directories : List Path := [⟨"old"⟩, ⟨"new"⟩, ⟨"empty"⟩, ⟨"broken"⟩, ⟨"sealed"⟩]
    let keep : Path → Bool := fun d => d = ⟨"old"⟩ || d = ⟨"new"⟩
    (∀ d ∈ directories, keep d = false → files.Skipped d) ∧
      files.loadCatalog [⟨"old"⟩, ⟨"new"⟩] = files.loadCatalog directories ∧
      files.Supplies directories "required" "New" ∧
      (Registry.withBuiltins (files.loadCatalog directories)).lookup "required" =
        some ⟨"required", Builtin.required, "New"⟩ := by
  intro files directories keep
  have empty : files.Skipped ⟨"empty"⟩ := .absent (by decide +kernel)
  have broken : files.Skipped ⟨"broken"⟩ := by
    have hread : files.read? (catalogPath ⟨"broken"⟩) = some "messages" := by decide +kernel
    have hroot : (Toml.read? "messages").isNone = true := by decide +kernel
    exact .notToml hread (Option.isNone_iff_eq_none.1 hroot)
  have unreadable : files.Skipped ⟨"sealed"⟩ := .unreadable (by decide +kernel) (by decide +kernel)
  have skipped : ∀ d ∈ directories, keep d = false → files.Skipped d := by
    intro d hd hkeep
    simp only [directories, List.mem_cons, List.not_mem_nil, or_false] at hd
    rcases hd with rfl | rfl | rfl | rfl | rfl
    · cases hkeep
    · cases hkeep
    · exact empty
    · exact broken
    · exact unreadable
  have offers : files.Offers ⟨"new"⟩ ⟨none, .ofList [("required", "New")]⟩ := by
    have hfile : (Toml.read? "messages.required = \"New\"").bind CatalogFile.ofToml? =
        some ⟨none, .ofList [("required", "New")]⟩ := by decide +kernel
    obtain ⟨root, hroot, hfile⟩ := Option.bind_eq_some_iff.1 hfile
    exact ⟨_, root, by decide +kernel, hroot, hfile⟩
  have supplies : files.Supplies directories "required" "New" := by
    have hsplit : directories =
        [⟨"old"⟩] ++ ⟨"new"⟩ :: [⟨"empty"⟩, ⟨"broken"⟩, ⟨"sealed"⟩] := rfl
    refine .layer hsplit offers (by decide) ?_
    intro d hd
    simp only [List.mem_cons, List.not_mem_nil, or_false] at hd
    rcases hd with rfl | rfl | rfl
    · exact empty.silent _
    · exact broken.silent _
    · exact unreadable.silent _
  obtain ⟨-, -, filter, registered⟩ := files.catalog_of_layers directories
  exact ⟨skipped, filter keep skipped, supplies,
    registered ("required", Builtin.required) (by simp [Builtin.all]) "New" supplies⟩

end Files

end FormRules
