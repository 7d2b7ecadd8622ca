import OrphanFiles.Category
import OrphanFiles.Index
import OrphanFiles.Source.ApiCalls
import OrphanFiles.Verdict.Basic

/-! The search for a file that refers to a given one. It is a substring test on
every other text: a coincidence counts as a reference, so that too little is
reported rather than too much. The first file in the order of comparison decides. -/
namespace OrphanFiles

/-- How a text refers to the file at `target`, by the first test that succeeds. -/
def evidence? (target : Path) (base? : Option Path) (content : Text) : Option Evidence :=
  if Text.occursIn target.stem content then some .stemOccurs
  else if target.apiRoute base? ≠ [] && Source.callsRoute content (target.apiRoute base?) then
    some .routeCalled
  else if Convention.isMediaSuffix target.suffix && Text.occursIn target.name content then
    some .mediaNameOccurs
  else none

/-- How a text refers to a public asset: by its full name. -/
def assetEvidence? (target : Path) (content : Text) : Option Evidence :=
  if Text.occursIn target.name content then some .mediaNameOccurs else none

theorem stem_infix_name (target : Path) : target.stem <:+: target.name :=
  (Text.stem_prefix target.name).isInfix

theorem evidence?_ne_mediaNameOccurs (target : Path) (base? : Option Path) (content : Text) :
    evidence? target base? content ≠ some .mediaNameOccurs := by
  unfold evidence?
  split
  · simp
  · rename_i no_stem
    split
    · simp
    · split
      · rename_i named
        rw [Bool.and_eq_true] at named
        have whole := Text.occursIn_iff.mp named.2
        exact absurd (Text.occursIn_iff.mpr ((stem_infix_name target).trans whole)) no_stem
      · simp

namespace Index

/-- The finding of a test over records in the given order. -/
def search (test : FileRecord → Option Evidence) (records : List FileRecord) : Finding :=
  (records.findSome? fun record =>
    (test record).map fun evidence => .referenced evidence record.path).getD .unreferenced

/-- The finding of a test over paths in the given order; a path that is not indexed
and is met before any reference is the error. -/
def searchIn (index : Index) (skip : Path → Bool) (test : Text → Option Evidence) :
    List Path → Except Path Finding
  | [] => .ok .unreferenced
  | other :: order =>
    if skip other then searchIn index skip test order
    else
      match index.content? other with
      | none => .error other
      | some content =>
        match test content with
        | some evidence => .ok (.referenced evidence other)
        | none => searchIn index skip test order

def orderedRecords (index : Index) : List FileRecord :=
  sortedBy (fun record => record.path.text) index.records

theorem map_path_orderedRecords (index : Index) :
    index.orderedRecords.map FileRecord.path = index.ordered := by
  simp only [orderedRecords, ordered, sortedBy, paths]
  exact List.map_mergeSort fun a _ b _ => rfl

/-- Whether and how another indexed file refers to this one. Entry points get no
exemption here. -/
def reference (index : Index) (path : Path) (base? : Option Path) : Finding :=
  search (fun record => if record.path = path then none else evidence? path base? record.content)
    index.orderedRecords

def referenceIn (index : Index) (path : Path) (base? : Option Path) (order : List Path) :
    Except Path Finding :=
  index.searchIn (· = path) (evidence? path base?) order

def judge (index : Index) (path : Path) (base? : Option Path) : Verdict :=
  ⟨path, if path.isEntryPoint base? then .entryPoint else index.reference path base?⟩

def judgeIn (index : Index) (path : Path) (base? : Option Path) (order : List Path) :
    Except Path Verdict :=
  if path.isEntryPoint base? then .ok ⟨path, .entryPoint⟩
  else (index.referenceIn path base? order).map (Verdict.mk path)

/-- Verdicts on all indexed files, in the order of comparison. -/
def judgeAll (index : Index) (base? : Option Path) : List Verdict :=
  index.ordered.map fun path => index.judge path base?

/-- The verdict on a public asset, which is never itself indexed. -/
def judgeAsset (index : Index) (path : Path) : Verdict :=
  ⟨path, if Convention.isKeptAsset path.name then .keptAsset
    else search (fun record => assetEvidence? path record.content) index.orderedRecords⟩

def judgeAssetIn (index : Index) (path : Path) (order : List Path) : Except Path Verdict :=
  if Convention.isKeptAsset path.name then .ok ⟨path, .keptAsset⟩
  else (index.searchIn (fun _ => false) (assetEvidence? path) order).map (Verdict.mk path)

/-- Verdicts on assets, each path once, where it first occurs. -/
def judgeAssets (index : Index) (assets : List Path) : List Verdict :=
  assets.eraseDups.map index.judgeAsset

end Index
end OrphanFiles
