import DeepLink.Proofs.Resolution.Race

namespace DeepLink

namespace Files

structure IsName (name : String) : Prop where
  slash : '/' ∉ name.toList
  empty : name.toList ≠ []
  dot : name.toList ≠ ['.']
  up : name ≠ ".."

theorem components_append (dir name : String) :
    components (dir ++ "/" ++ name) = components dir ++ components name := by
  have parts : (dir ++ "/" ++ name).toList = dir.toList ++ '/' :: name.toList := by
    simp [String.toList_append]
  rw [components, parts, Text.split_append, List.filter_append, List.map_append]
  rfl

theorem components_of_isName {name : String} (h : IsName name) : components name = [name] := by
  rw [components, Text.split_eq_singleton h.slash, List.filter_cons_of_pos]
  · simp
  · exact decide_eq_true ⟨h.empty, h.dot⟩

theorem components_join (dir : String) {name : String} (h : IsName name) :
    components (join dir name) = components dir ++ [name] := by
  have relative : name.toList.head? ≠ some '/' := by
    intro absolute
    exact h.slash (List.mem_of_mem_head? absolute)
  by_cases here : dir = ""
  · rw [join, if_pos (.inl here), components_of_isName h, here]
    rfl
  · rw [join, if_neg (not_or.2 ⟨here, relative⟩), components_append, components_of_isName h]

def child (name : String) (entries : List (String × Node)) : Except Fault Node :=
  if nameLimit < name.utf8ByteSize then .error .nameTooLong
  else match entry? name entries with
    | none => .error .notFound
    | some node => .ok node

namespace Node

theorem find_nil (above : List Node) (node : Node) : node.find above [] = .ok node := by
  rw [find.eq_def]

theorem find_directory (above : List Node) (entries : List (String × Node)) {name : String} (up : name ≠ "..")
    (rest : List String) : (directory entries).find above (name :: rest) =
      match child name entries with
      | .error fault => .error fault
      | .ok node => node.find (directory entries :: above) rest := by
  rw [find.eq_def]
  dsimp only
  rw [if_neg up, child]
  by_cases long : nameLimit < name.utf8ByteSize
  · rw [if_pos long, if_pos long]
  · rw [if_neg long, if_neg long]
    cases entry? name entries <;> rfl

theorem find_up (above : List Node) (entries : List (String × Node)) (rest : List String) :
    (directory entries).find above (".." :: rest) =
      match above with
      | [] => (directory entries).find [] rest
      | parent :: above => parent.find above rest := by
  rw [find.eq_def]
  rfl

theorem find_concat {names : List String} {node : Node} {above : List Node} {entries : List (String × Node)}
    (found : node.find above names = .ok (.directory entries)) {name : String} (up : name ≠ "..") :
    node.find above (names ++ [name]) = child name entries := by
  induction names generalizing node above with
  | nil =>
    rw [find_nil] at found
    rw [Except.ok.inj found, List.nil_append, find_directory above entries up []]
    cases child name entries with
    | error fault => rfl
    | ok node => exact find_nil _ node
  | cons first rest ih =>
    cases node with
    | file content =>
      rw [find.eq_def] at found
      cases found
    | directory es =>
      rw [List.cons_append]
      by_cases back : first = ".."
      · rw [back, find_up] at found ⊢
        cases above with
        | nil => exact ih found
        | cons parent above => exact ih found
      · rw [find_directory above es back] at found ⊢
        cases hc : child first es with
        | error fault =>
          rw [hc] at found
          cases found
        | ok node =>
          rw [hc] at found
          exact ih found

end Node

/-- Two directories have the same under a name: nothing, or directories, whatever is in them, or files of the same bytes. -/
inductive SameAt (name : String) (entries entries' : List (String × Node)) : Prop where
  | absent (h : entry? name entries = none) (h' : entry? name entries' = none)
  | directory {es es' : List (String × Node)} (h : entry? name entries = some (.directory es))
      (h' : entry? name entries' = some (.directory es'))
  | file {content : List UInt8} (h : entry? name entries = some (.file content))
      (h' : entry? name entries' = some (.file content))

theorem Node.read_confined {root root' : Node} {dir : String} {entries entries' : List (String × Node)}
    (there : root.find [] (components dir) = .ok (.directory entries))
    (there' : root'.find [] (components dir) = .ok (.directory entries')) {name : String} (h : IsName name)
    (same : SameAt name entries entries') :
    root.read (join dir name) = root'.read (join dir name) := by
  rw [read, read, components_join dir h, find_concat there h.up, find_concat there' h.up, child, child]
  by_cases long : nameLimit < name.utf8ByteSize
  · rw [if_pos long, if_pos long]
  · rw [if_neg long, if_neg long]
    cases same with
    | absent h h' => rw [h, h']
    | directory h h' => rw [h, h']
    | file h h' => rw [h, h']

end Files

namespace Loader

theorem isUnsafe_iff {id : String} : isUnsafe id ↔
    id = "" ∨ '/' ∈ id.toList ∨ '\\' ∈ id.toList ∨ ['.', '.'] <:+: id.toList := by
  simp [isUnsafe, Text.contains_iff, or_assoc]

theorem loadFile_refused {id : String} (h : isUnsafe id) (root : Files.Node) (dir : String) :
    loadFile root dir id = .error (.notFound id) := by
  rw [loadFile, if_pos h]

theorem isName_of_safe {id : String} (h : ¬ isUnsafe id) : Files.IsName (id ++ ".json") := by
  rw [isUnsafe_iff, not_or, not_or] at h
  have parts : (id ++ ".json").toList = id.toList ++ ['.', 'j', 's', 'o', 'n'] := by
    rw [String.toList_append]
    rfl
  have long : 5 ≤ (id ++ ".json").toList.length := by
    rw [parts, List.length_append]
    exact Nat.le_add_left 5 _
  constructor
  · rw [parts, List.mem_append, not_or]
    exact ⟨h.2.1, by decide⟩
  · intro he
    rw [he] at long
    exact absurd long (by decide)
  · intro hd
    rw [hd] at long
    exact absurd long (by decide)
  · intro hu
    rw [hu] at long
    exact absurd long (by decide)

theorem loadFile_confined {root root' : Files.Node} {dir : String} {entries entries' : List (String × Files.Node)}
    (there : root.find [] (Files.components dir) = .ok (.directory entries))
    (there' : root'.find [] (Files.components dir) = .ok (.directory entries')) {id : String}
    (same : Files.SameAt (id ++ ".json") entries entries') :
    loadFile root dir id = loadFile root' dir id := by
  by_cases h : isUnsafe id
  · rw [loadFile_refused h, loadFile_refused h]
  · rw [loadFile, loadFile, Files.Node.read_confined there there' (isName_of_safe h) same]

end Loader

theorem run_of_load {o : Options} {env : Environment} {l l' : Loader} (delay : l.delay = l'.delay)
    (load : l.load (o.id.getD (idOf env.url)) = l'.load (o.id.getD (idOf env.url)))
    (draw : Nat) (channel : Channel) (events : List Event) :
    run { o with loader := l } env draw channel events = run { o with loader := l' } env draw channel events := by
  have document : Options.document { o with loader := l } env = Options.document { o with loader := l' } env := by
    rw [Options.document, Options.document]
    dsimp only
    rw [load]
  have loaded : Scene.loaded { o with loader := l } env channel events =
      Scene.loaded { o with loader := l' } env channel events := by
    rw [Scene.loaded, Scene.loaded]
    dsimp only
    rw [delay]
  simp only [run, Scene.resolve_eq, document, Scene.ready, loaded]
  rfl

open Files in
/-- Two trees of files that have the same for an id in a directory are not told apart by what is loaded for it from there,
nor by a resolution, which may take the id from the page's URL. An id that could lead elsewhere finds nothing. -/
theorem directory_confined {root root' : Node} {dir : String} {entries entries' : List (String × Node)}
    (there : root.find [] (components dir) = .ok (.directory entries))
    (there' : root'.find [] (components dir) = .ok (.directory entries')) :
    (∀ id, SameAt (id ++ ".json") entries entries' → Loader.loadFile root dir id = Loader.loadFile root' dir id) ∧
    (∀ (o : Options) (env : Environment) (draw : Nat) (channel : Channel) (events : List Event),
      SameAt (o.id.getD (idOf env.url) ++ ".json") entries entries' →
        run { o with loader := .directory root dir } env draw channel events =
          run { o with loader := .directory root' dir } env draw channel events) ∧
    ∀ (tree : Node) (dir id : String),
      id = "" ∨ '/' ∈ id.toList ∨ '\\' ∈ id.toList ∨ ['.', '.'] <:+: id.toList →
        Loader.loadFile tree dir id = .error (.notFound id) := by
  refine ⟨?_, ?_, ?_⟩
  · intro id same
    exact Loader.loadFile_confined there there' same
  · intro o env draw channel events same
    apply run_of_load
    · rfl
    · exact Loader.loadFile_confined there there' same
  · intro tree dir id h
    exact Loader.loadFile_refused (Loader.isUnsafe_iff.2 h) tree dir

def promoted : Environment where
  url := some "app://go?id=pro%6Do"
  now := blinking.now

def promotion : Files.Node := .file (Utf8.bytes "\x7b\"default\":\x7b\"target\":\x7b\"web\":\"app://w\"\x7d\x7d\x7d")

def fullShelf : List (String × Files.Node) := [("a.json", .file [0]), ("promo.json", promotion)]

def bareShelf : List (String × Files.Node) := [("promo.json", promotion)]

open Files in
theorem directory_confined_promo :
    let root : Node := .directory [("rules", .directory fullShelf), ("b.json", promotion)]
    let root' : Node := .directory [("b.json", .directory []), ("rules", .directory bareShelf)]
    let o (root : Node) : Options :=
      { loader := .directory root "rules", overrides := { lang := some "en", bucket := some 0 } }
    let x := run (o root) promoted 0 { value := .visible } []
    x.outcome.resolved?.map (·.used) = some .web ∧ x = run (o root') promoted 0 { value := .visible } [] ∧
      Loader.loadFile root "rules" "promo" = Loader.loadFile root' "rules" "promo" ∧
      idOf (some "app://go?id=%2e%2e%2Fb") = "../b" ∧
      Loader.loadFile root "rules" "../b" = .error (.notFound "../b") := by
  intro root root' o x
  have there : root.find [] (components "rules") = .ok (.directory fullShelf) := by rfl
  have there' : root'.find [] (components "rules") = .ok (.directory bareShelf) := by rfl
  have promo : idOf promoted.url = "promo" := by decide +kernel
  have same : SameAt ("promo" ++ ".json") fullShelf bareShelf := by
    apply SameAt.file
    · rfl
    · rfl
  obtain ⟨loaded, resolved, refused⟩ := directory_confined there there'
  refine ⟨by decide +kernel, ?_, loaded "promo" same, by decide +kernel, refused root "rules" "../b" (by decide)⟩
  apply resolved (o root)
  show SameAt (idOf promoted.url ++ ".json") fullShelf bareShelf
  rw [promo]
  exact same

end DeepLink
