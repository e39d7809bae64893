import WireSchema.Proofs.Disk.Path
import WireSchema.Proofs.Generation.Delivery
import WireSchema.Proofs.Name.Case

/-!
Where the file of an API is put. Its name is the snake form of the base name with the suffix of the options, and
the snake form keeps every slash of the base name. So the file is an entry of the destination when the base name
has no slash; otherwise it is further down, or anywhere if the file name begins with a slash. Dots do no harm, since
the snake form has none, unless the suffix is all that there is of the name.
-/

namespace WireSchema.Generation

open WireSchema.Schema (Message)
open WireSchema.Disk

/-- The name of the file of a group whose messages fit. -/
def fileName (o : Options) (pair : Pair) : Route → String
  | .api _ => Name.snake pair.request.baseName ++ o.fileSuffix
  | .headers => o.headerFileName

theorem slash_mem_file_iff {suffix : String} (hsuffix : '/' ∉ suffix.toList) (base : String) :
    '/' ∈ (Name.snake base ++ suffix).toList ↔ '/' ∈ base.toList := by
  rw [String.toList_append, List.mem_append, Name.slash_mem_snake_iff, or_iff_left hsuffix]

/-- A file name that is empty or consists of dots is the suffix alone. -/
theorem file_eq_dots_iff {dots : String} (hdots : ∀ c ∈ dots.toList, c = '.') (base suffix : String) :
    Name.snake base ++ suffix = dots ↔ Name.snake base = "" ∧ suffix = dots := by
  constructor
  · intro heq
    have hempty : Name.snake base = "" := by
      rw [← String.toList_eq_nil_iff, List.eq_nil_iff_forall_not_mem]
      intro c hc
      have hdot : c = '.' := hdots c (by rw [← heq, String.toList_append]; exact List.mem_append_left _ hc)
      exact Name.dot_not_mem_snake base (hdot ▸ hc)
    exact ⟨hempty, by rw [← heq, hempty, String.empty_append]⟩
  · rintro ⟨hempty, rfl⟩
    rw [hempty, String.empty_append]

theorem isEntryName_file_iff {suffix : String} (hsuffix : '/' ∉ suffix.toList) (base : String) :
    Path.IsEntryName (Name.snake base ++ suffix) ↔
      '/' ∉ base.toList ∧ ¬(Name.snake base = "" ∧ suffix ∈ ["", ".", ".."]) := by
  rw [Path.IsEntryName, slash_mem_file_iff hsuffix, ne_eq, ne_eq, ne_eq, file_eq_dots_iff (by simp),
    file_eq_dots_iff (by simp), file_eq_dots_iff (by simp)]
  simp only [List.mem_cons, List.not_mem_nil, or_false, and_or_left, not_or]

namespace Generator

theorem apiFileName_eq (o : Options) (key : Int16) {pair : Pair}
    (h : pair.request.baseName = pair.response.baseName) :
    apiFileName o key pair = .ok (Name.snake pair.request.baseName ++ o.fileSuffix) :=
  if_pos h

theorem pathOf_eq_ok {g : Generator} {pair : Pair} {r : Route} {path : String} (h : g.pathOf pair r = .ok path) :
    path = Path.join g.destination (fileName g.options pair r) := by
  cases r with
  | headers => exact (Except.ok.inj h).symm
  | api key =>
      rw [pathOf, apiFileName] at h
      split at h
      · exact (Except.ok.inj h).symm
      · cases h

/-- Where the file of an API goes when the base names of its messages are equal. Its name has a slash just when
the base name has one. If the name begins with a slash, then it is the whole path; else the path is that of an
entry of the destination just when there is no slash in the base name and the name is not a suffix that is empty
or consists of dots. On every disk such a path leads into the folder that the destination leads to. -/
theorem pathOf_api_isChild_iff (g : Generator) (key : Int16) (pair : Pair)
    (hbase : pair.request.baseName = pair.response.baseName)
    (hsuffix : '/' ∉ g.options.fileSuffix.toList) :
    ∃ file, apiFileName g.options key pair = .ok file ∧
      g.pathOf pair (.api key) = .ok (Path.join g.destination file) ∧
      ('/' ∈ file.toList ↔ '/' ∈ pair.request.baseName.toList) ∧
      (Path.IsAbsolute file → Path.join g.destination file = file) ∧
      (¬Path.IsAbsolute file →
        (Path.IsChild g.destination (Path.join g.destination file) ↔
          '/' ∉ pair.request.baseName.toList ∧
            ¬(Name.snake pair.request.baseName = "" ∧ g.options.fileSuffix ∈ ["", ".", ".."]))) ∧
      ∀ (d : Disk) (p : Place), Path.IsChild g.destination (Path.join g.destination file) →
        d.enter (d.start g.destination) (Path.names g.destination) = .ok p →
        ∃ name, d.locate (Path.join g.destination file) = .ok (p ++ [name]) := by
  have hfile := apiFileName_eq g.options key hbase
  refine ⟨_, hfile, ?_, slash_mem_file_iff hsuffix _, ?_, ?_, ?_⟩
  · rw [pathOf, hfile]
    rfl
  · exact fun habsolute => Path.join_of_isAbsolute habsolute g.destination
  · intro hrelative
    rw [Path.isChild_join_iff hrelative, isEntryName_file_iff hsuffix]
  · rintro d p ⟨name, hname, hpath⟩ hfolder
    rw [hpath]
    exact ⟨name, locate_join hname hfolder⟩

section Sample

open Sample

/-- Messages whose base name has nothing but dots. -/
def dotPair : Pair :=
  ⟨request "..Request", response "..Response"⟩

theorem pathOf_api_isChild_dotPair :
    dotPair.request.baseName = ".." ∧ dotPair.response.baseName = ".." ∧
      ∃ file, apiFileName {} 1 dotPair = .ok file ∧ Path.IsChild "out" (Path.join "out" file) := by
  have hrequest : dotPair.request.baseName = ".." := by decide
  have hresponse : dotPair.response.baseName = ".." := by decide
  have hslash : '/' ∉ dotPair.request.baseName.toList := by decide
  have hsuffix : '/' ∉ (create "out" {}).options.fileSuffix.toList := by decide
  obtain ⟨file, hfile, _, hmem, _, hchild, _⟩ :=
    pathOf_api_isChild_iff (create "out" {}) 1 dotPair (hrequest.trans hresponse.symm) hsuffix
  have hrelative : ¬Path.IsAbsolute file := Path.not_isAbsolute_of_not_mem (mt hmem.mp hslash)
  exact ⟨hrequest, hresponse, file, hfile, (hchild hrelative).mpr ⟨hslash, by decide⟩⟩

/-- A document with a comment in its name, which is an entry of a folder in a folder when it is read as a path. -/
def commentedDocument (kind : String) : List UInt8 :=
  Text.Utf8.encode ("\x7b\"type\":\"" ++ kind ++ "\",\"apiKey\":1,\"name\":\"Foo/*a*/\"\x7d")

theorem pathOf_api_commentedDocument :
    ∃ request response : Message,
      Schema.loadBytes "q.json" (commentedDocument "request") = .ok request ∧
      Schema.loadBytes "r.json" (commentedDocument "response") = .ok response ∧
      request.kind = .request ∧ response.kind = .response ∧
      request.baseName = response.baseName ∧ '/' ∉ (create "out" {}).options.fileSuffix.toList ∧
      apiFileName {} 1 ⟨request, response⟩ = .ok "foo/*a*/_gen.rs" ∧
      (create "out" {}).pathOf ⟨request, response⟩ (.api 1) = .ok "out/foo/*a*/_gen.rs" ∧
      ¬Path.IsChild "out" "out/foo/*a*/_gen.rs" := by
  have hload : ∀ origin kind k,
      (Schema.loadBytes origin (commentedDocument kind)).toOption.map (fun m => (m.kind, m.name)) =
        some (k, "Foo/*a*/") →
      ∃ m, Schema.loadBytes origin (commentedDocument kind) = .ok m ∧ m.kind = k ∧ m.name = "Foo/*a*/" := by
    intro origin kind k h
    cases hm : Schema.loadBytes origin (commentedDocument kind) with
    | error e => rw [hm] at h; cases h
    | ok m =>
        rw [hm] at h
        obtain ⟨hkind, hname⟩ := Prod.mk.inj (Option.some.inj h)
        exact ⟨m, rfl, hkind, hname⟩
  obtain ⟨request, hrequest, hkind, hname⟩ := hload "q.json" "request" .request (by decide +kernel)
  obtain ⟨response, hresponse, hkind', hname'⟩ := hload "r.json" "response" .response (by decide +kernel)
  have hbase : request.baseName = "Foo/*a*/" := by
    rw [Message.baseName, hkind, hname]
    decide
  have hbase' : response.baseName = "Foo/*a*/" := by
    rw [Message.baseName, hkind', hname']
    decide
  have hfile : apiFileName {} 1 ⟨request, response⟩ = .ok "foo/*a*/_gen.rs" := by
    rw [apiFileName_eq _ _ (hbase.trans hbase'.symm), hbase]
    decide
  have hjoin : Path.join "out" "foo/*a*/_gen.rs" = "out/foo/*a*/_gen.rs" := by decide
  refine ⟨request, response, hrequest, hresponse, hkind, hkind', hbase.trans hbase'.symm, by decide, hfile, ?_, ?_⟩
  · rw [← hjoin]
    exact congrArg (Except.map _) hfile
  · rw [← hjoin, Path.isChild_join_iff (by decide)]
    decide

end Sample

end Generator

end WireSchema.Generation
