import OrphanFiles.Text.Basic

/-! Fixed names and endings of a web project: files that the framework or a
crawler picks up by convention, directories nobody scans, and the suffixes that
separate source from media. -/
namespace OrphanFiles.Convention

def entryPoints : List Text := [
  "layout.tsx".toList, "page.tsx".toList, "loading.tsx".toList, "error.tsx".toList,
  "not-found.tsx".toList, "route.ts".toList, "middleware.ts".toList, "robots.ts".toList,
  "sitemap.ts".toList, "manifest.ts".toList, "global.d.ts".toList, "globals.css".toList,
  "analytics.ts".toList, "metadata.ts".toList, "schema.js".toList]

/-- Directories left out wherever they occur. -/
def ignoredDirectories : List Text := [
  "node_modules".toList, ".next".toList, "dist".toList, ".git".toList, ".husky".toList]

/-- Directories left out at one place below the project. -/
def ignoredSubpaths : List Text := ["public/chunks".toList, "public/static".toList]

def mediaSuffixes : List Text := [
  ".jpg".toList, ".jpeg".toList, ".png".toList, ".gif".toList, ".svg".toList, ".webp".toList,
  ".ico".toList, ".mp4".toList, ".webm".toList, ".m4s".toList, ".mp3".toList, ".wav".toList,
  ".ogg".toList]

def sourceSuffixes : List Text := [
  ".ts".toList, ".tsx".toList, ".js".toList, ".jsx".toList, ".css".toList, ".scss".toList,
  ".sass".toList, ".less".toList]

/-- Capitals of ASCII are folded; no other character has a small form that occurs
in a listed suffix. -/
def isMediaSuffix (suffix : Text) : Bool :=
  mediaSuffixes.contains suffix.foldCase

def isSourceSuffix (suffix : Text) : Bool :=
  sourceSuffixes.contains suffix.foldCase

theorem not_isMediaSuffix_of_isSourceSuffix {suffix : Text} (h : isSourceSuffix suffix = true) :
    isMediaSuffix suffix = false := by
  have apart : ∀ s ∈ sourceSuffixes, mediaSuffixes.contains s = false := by decide
  exact apart _ (List.contains_iff_mem.mp h)

/-- Marks a path as part of the server interface. -/
def apiSegment : Text := "/api/".toList

def scriptEndings : List Text := [".js".toList, ".jsx".toList, ".ts".toList, ".tsx".toList]

def routeEndings : List Text := [".js".toList, ".ts".toList]

/-- Assets that crawlers and streaming players fetch without any source naming them. -/
def isKeptAsset (name : Text) : Bool :=
  name = "robots.txt".toList || name = "sitemap.xml".toList ||
    Text.occursIn "segment_".toList name || ".m4s".toList.isSuffixOf name

end OrphanFiles.Convention
