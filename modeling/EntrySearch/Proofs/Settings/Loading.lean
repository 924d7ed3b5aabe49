import EntrySearch.Proofs.Settings.Layering
import EntrySearch.Proofs.Yaml.Endless

/-!
# Ways to load settings

Settings are loaded from one file, from a file over missing defaults, from the defaults alone, and
from a file over defaults with the same text. The first two give the same settings or the same
fault, and so do the last two unless the objects of the text nest without end: then laying them over
themselves comes to no end.
-/

namespace EntrySearch.Settings

open Outcome Value

variable {reader : Yaml.Reader} {files : Files} {environment : Environment}
  {path defaults : FilePath} {text : String}

variable (reader) in
/-- The options in the text of a file. -/
def textOptions (text : String) : Except LoadFault Yaml.Document :=
  optionsOf reader (String.ofList (lineFeeds text.toList))

variable (reader) in
/-- The settings in the text of a file, with nothing below them. -/
def ofText (environment : Environment) (text : String) : Except LoadFault Settings := do
  let options ← textOptions reader text
  (ofValue environment options.value).mapError .settings

/-- The objects in a text nest without end. -/
def NestsEndlessly (reader : Yaml.Reader) (text : String) : Prop :=
  ∃ options, textOptions reader text = .ok options ∧ options.NestsEndlessly

theorem fileOptions_of_get? (held : Entries.get? path files = some text) :
    fileOptions reader files path = textOptions reader text := by
  rw [fileOptions, Files.read, held]
  rfl

theorem load_eq_ofText (held : Entries.get? path files = some text) :
    load reader files environment path = ofText reader environment text := by
  rw [load, fileOptions_of_get? held]
  rfl

/-- Laying the options of a text over others changes nothing, if it comes to an end and leaves every
object as it is. -/
theorem bind_overlaid_eq_ofText {base : Yaml.Document}
    (ends : ∀ options, textOptions reader text = .ok options →
      base.overlaysEndlessly options = false)
    (kept : ∀ options, textOptions reader text = .ok options →
      base.value.overlay options.value = options.value) :
    textOptions reader text >>= overlaid environment base = ofText reader environment text := by
  unfold ofText
  cases read : textOptions reader text with
  | error fault => rfl
  | ok options =>
      show overlaid environment base options = _
      rw [overlaid, ends options read, if_neg Bool.false_ne_true, kept options read]
      rfl

theorem loadOver_of_missing (held : Entries.get? path files = some text)
    (missing : Entries.get? defaults files = none) :
    loadOver reader files environment defaults path = ofText reader environment text := by
  have other : path ≠ defaults := by
    rintro rfl
    exact nomatch held.symm.trans missing
  rw [loadOver_eq_bind, defaultOptions, missing]
  show (if path = defaults then _ else _) = _
  rw [if_neg other, fileOptions_of_get? held]
  refine bind_overlaid_eq_ofText (fun _ _ => Yaml.Document.not_overlaysEndlessly_nothing _)
    fun options read => ?_
  obtain ⟨keyed, entries, options_eq⟩ := optionsOf_eq_ok read
  have value_keyed := Yaml.Document.isKeyed_value keyed
  rw [options_eq] at value_keyed ⊢
  exact overlay_nothing value_keyed

theorem defaultOptions_of_get? (below : Entries.get? defaults files = some text) :
    defaultOptions reader files defaults = textOptions reader text := by
  rw [defaultOptions, below]
  exact fileOptions_of_get? below

theorem loadOver_self (below : Entries.get? defaults files = some text) :
    loadOver reader files environment defaults defaults = ofText reader environment text := by
  rw [loadOver_eq_bind, defaultOptions_of_get? below, ofText]
  simp only [if_true]

/-- A file over defaults with the same text is laid over itself. -/
theorem loadOver_of_same (held : Entries.get? path files = some text)
    (below : Entries.get? defaults files = some text) (other : path ≠ defaults) :
    loadOver reader files environment defaults path =
      textOptions reader text >>= fun options => overlaid environment options options := by
  rw [loadOver_eq_bind, defaultOptions_of_get? below, fileOptions_of_get? held]
  simp only [if_neg other]
  cases textOptions reader text <;> rfl

theorem overlaid_self {options : Yaml.Document} (keyed : options.IsKeyed) :
    overlaid environment options options =
      if options.overlaysEndlessly options then .error .endless
      else (ofValue environment options.value).mapError .settings := by
  rw [overlaid, overlay_self (Yaml.Document.isKeyed_value keyed)]

/-- A text is loaded over missing defaults as it is by itself, and as the defaults as it is over
defaults with the same text: with the same settings or the same fault. Only where the objects of the
text nest without end, laying them over themselves comes to no end. An object over an empty one, and
an object over itself, are that object, however deep it is. -/
theorem loads_agree (held : Entries.get? path files = some text) :
    (Entries.get? defaults files = none →
        load reader files environment path = loadOver reader files environment defaults path) ∧
      (Entries.get? defaults files = some text →
        (¬NestsEndlessly reader text →
          loadOver reader files environment defaults defaults =
            loadOver reader files environment defaults path) ∧
        (NestsEndlessly reader text → path ≠ defaults →
          loadOver reader files environment defaults path = .error .endless ∧
            loadOver reader files environment defaults defaults ≠ .error .endless)) ∧
      ∀ entries, (Value.object entries).IsKeyed →
        (Value.object []).overlay (.object entries) = .object entries ∧
          (Value.object entries).overlay (.object entries) = .object entries := by
  refine ⟨fun missing => ?_, fun below => ⟨fun ends => ?_, fun endless other => ?_⟩,
    fun entries keyed => ⟨overlay_nothing keyed, overlay_self keyed⟩⟩
  · rw [load_eq_ofText held, loadOver_of_missing held missing]
  · by_cases same : path = defaults
    · rw [same]
    · rw [loadOver_self below, loadOver_of_same held below same, ofText]
      cases read : textOptions reader text with
      | error fault => rfl
      | ok options =>
          have keyed := (optionsOf_eq_ok read).1
          show _ = overlaid environment options options
          rw [overlaid_self keyed, if_neg fun lasts =>
            ends ⟨options, read, (Yaml.Document.overlaysEndlessly_self_iff keyed).mp lasts⟩]
          rfl
  · obtain ⟨options, read, nests⟩ := endless
    have keyed := (optionsOf_eq_ok read).1
    constructor
    · rw [loadOver_of_same held below other, read]
      show overlaid environment options options = _
      rw [overlaid_self keyed,
        if_pos ((Yaml.Document.overlaysEndlessly_self_iff keyed).mpr nests)]
    · rw [loadOver_self below, ofText, read]
      show (ofValue environment options.value).mapError _ ≠ _
      cases ofValue environment options.value <;> exact nofun

/-- Settings with objects in objects, one of them at two places, a key that is given twice and keys
that are no texts. -/
def nestedText : String :=
  "search: &s\n  index: old\nextra:\n  deep:\n    1: a\n    true: [b, c]\n  .nan: *s\n" ++
    "search:\n  index: custom\n"

/-- Two files with one text. -/
def twinFiles (text : String) : Files :=
  [(["first.yml"], text), (["second.yml"], text)]

theorem loads_agree_nestedText :
    let files := twinFiles nestedText
    Entries.get? ["second.yml"] files = some nestedText ∧
      Entries.get? ["third.yml"] files = none ∧
      Entries.get? ["first.yml"] files = some nestedText ∧
      ¬NestsEndlessly Yaml.reader nestedText ∧
      load Yaml.reader files [] ["second.yml"] =
        loadOver Yaml.reader files [] ["third.yml"] ["second.yml"] ∧
      loadOver Yaml.reader files [] ["first.yml"] ["first.yml"] =
        loadOver Yaml.reader files [] ["first.yml"] ["second.yml"] ∧
      (load Yaml.reader files [] ["second.yml"]).toOption.map (fun settings => settings.search) =
        some ⟨"custom", 100, 1000⟩ := by
  intro files
  have held : Entries.get? ["second.yml"] files = some nestedText := rfl
  have missing : Entries.get? ["third.yml"] files = none := rfl
  have below : Entries.get? ["first.yml"] files = some nestedText := rfl
  have ends : ¬NestsEndlessly Yaml.reader nestedText := by
    rintro ⟨options, read, nests⟩
    obtain ⟨other, again, lasts⟩ : ∃ options, textOptions Yaml.reader nestedText = .ok options ∧
        options.overlaysEndlessly options = false :=
      exists_ok_of_map_toOption (fun options : Yaml.Document => options.overlaysEndlessly options)
        (by decide +kernel)
    obtain rfl := Except.ok.inj (read.symm.trans again)
    rw [(Yaml.Document.overlaysEndlessly_self_iff (optionsOf_eq_ok read).1).mpr nests] at lasts
    exact nomatch lasts
  exact ⟨held, missing, below, ends, (loads_agree held).1 missing,
    ((loads_agree held).2.1 below).1 ends, by decide +kernel⟩

/-- An object that is the value of a key in it. -/
def endlessText : String :=
  "a: &x\n  b: *x\n"

theorem not_loads_agree_endlessText :
    let files := twinFiles endlessText
    loadOver Yaml.reader files [] ["first.yml"] ["first.yml"] ≠
        loadOver Yaml.reader files [] ["first.yml"] ["second.yml"] ∧
      loadOver Yaml.reader files [] ["first.yml"] ["second.yml"] = .error .endless ∧
      (loadOver Yaml.reader files [] ["first.yml"] ["first.yml"]).toOption.map
        (fun settings => settings.search) = some ⟨"olog_logs", 100, 1000⟩ := by
  intro files
  have endless : loadOver Yaml.reader files [] ["first.yml"] ["second.yml"] = .error .endless :=
    fault?_eq_some_iff.mp (by decide +kernel)
  have loaded : (loadOver Yaml.reader files [] ["first.yml"] ["first.yml"]).toOption.map
      (fun settings => settings.search) = some ⟨"olog_logs", 100, 1000⟩ := by
    decide +kernel
  refine ⟨fun same => ?_, endless, loaded⟩
  rw [same, endless] at loaded
  exact nomatch loaded

end EntrySearch.Settings
