import DeviceReadings.Config.Basic
import DeviceReadings.Plugin
import DeviceReadings.Proofs.Reader.Labels
import DeviceReadings.Source.Replay

/-!
# Labels play no part at any entry point

Everything that a program can ask of readers, in one history: readers of its own, readers behind a
lock, readers set up by a configuration, and the plugin, with the process-wide reader, lazy readers
and handles (`Ask`). Two histories that differ in devices and models alone go alike, step by step
(`histories_alike_but_for_labels`). This covers models that the plugin gets as bytes, whatever these
are, and readings that are cut short by the log.
-/

namespace DeviceReadings

/-! ## Requests -/

/-- Something that a program asks of its readers. Readers have a slot each. -/
inductive Ask (σ τ υ : Type) where
  /-- Builds a reader around a source of readings and a source of seeds. -/
  | newReader (slot : Nat) (policy : SeedPolicy) (source : σ) (seeds : τ)
  | readReader (slot : Nat) (listener : Listener) (label : Label)
  /-- Builds a reader behind a lock. -/
  | newShared (slot : Nat) (policy : SeedPolicy) (source : σ) (seeds : τ)
  | readShared (slot : Nat) (listener : Listener) (label : Label)
  /-- Builds a reader by a configuration, with the answers of the system that it meets. -/
  | newConfigured (slot : Nat) (c : Config) (seeds : υ)
  | readConfigured (slot : Nat) (listener : Listener) (label : Label) (seeds : υ)
  /-- Asks the plugin, with the answers of the system that it meets. -/
  | plugin (operation : Operation) (seeds : υ)

/-- What a program gets. -/
inductive Reply where
  | built
  /-- A configuration has no seed policy. -/
  | refused (cause : Failure)
  /-- There is no reader to read from. -/
  | absent
  | reading (value : Int32)
  | plugin (answer : Answer)
  deriving DecidableEq, Repr

/-- An operation with the device 0 and no model. -/
def Operation.unlabelled : Operation → Operation
  | .exportedRead _ _ => .exportedRead 0 none
  | .processRead policy listener _ => .processRead policy listener ⟨0, none⟩
  | .ownRead slot policy listener _ => .ownRead slot policy listener ⟨0, none⟩
  | .newHandle slot code seed => .newHandle slot code seed
  | .readHandle slot _ _ => .readHandle slot 0 none
  | .freeHandle slot => .freeHandle slot

/-- A request with the device 0 and no model. -/
def Ask.unlabelled {σ τ υ : Type} : Ask σ τ υ → Ask σ τ υ
  | .newReader slot policy source seeds => .newReader slot policy source seeds
  | .readReader slot listener _ => .readReader slot listener ⟨0, none⟩
  | .newShared slot policy source seeds => .newShared slot policy source seeds
  | .readShared slot listener _ => .readShared slot listener ⟨0, none⟩
  | .newConfigured slot c seeds => .newConfigured slot c seeds
  | .readConfigured slot listener _ seeds => .readConfigured slot listener ⟨0, none⟩ seeds
  | .plugin operation seeds => .plugin operation.unlabelled seeds

/-- The readers of a program, those that own a source of seeds along with it, and the plugin. -/
structure World (σ τ : Type) where
  readers : Nat → Option (Reader σ × τ)
  shared : Nat → Option (SharedReader σ × τ)
  configured : Nat → Option (Reader Generator)
  plugin : Plugin

/-! ## Slots -/

section

variable {ρ σ τ : Type}

/-- Puts a reader that is built in a slot. Whatever was there is gone. -/
def fillSlot (keep : Reader σ → τ → ρ) (run : Run τ (Reader σ)) : Act (Option ρ) Reply :=
  fun _ =>
    match run.outcome with
    | .value reader => ⟨.value .built, some (keep reader run.state), run.trace⟩
    | .panicked => ⟨.panicked, none, run.trace⟩

/-- Takes a reading from what is in a slot. -/
def readSlot (read : Act ρ Int32) : Act (Option ρ) Reply :=
  fun slot =>
    match slot with
    | none => ⟨.value .absent, none, []⟩
    | some held => ((do return Reply.reading (← read)) held).mapState some

/-- A read from a slot goes alike if the read from what is in it does. Where the slot is empty no
label is looked at. -/
theorem readSlot_alike {read read' : Act ρ Int32} (h : Act.Alike read read') :
    Act.Alike (readSlot read) (readSlot read') := by
  intro slot
  cases slot with
  | none => exact .refl _
  | some held => exact (h.map Reply.reading held).mapState some

end

/-- An action on a part of a state. -/
def Act.on {S T α : Type} (get : S → T) (put : S → T → S) (act : Act T α) : Act S α :=
  fun s => (act (get s)).mapState (put s)

namespace World

variable {σ τ υ : Type} [RandomSource σ] [SeedSource τ] [SeedSource υ]

/-- An action on a slot for readers. -/
def onReader (slot : Nat) (act : Act (Option (Reader σ × τ)) Reply) : Act (World σ τ) Reply :=
  act.on (·.readers slot) fun w held => { w with readers := Plugin.update w.readers slot held }

/-- An action on a slot for readers behind a lock. -/
def onShared (slot : Nat) (act : Act (Option (SharedReader σ × τ)) Reply) :
    Act (World σ τ) Reply :=
  act.on (·.shared slot) fun w held => { w with shared := Plugin.update w.shared slot held }

/-- An action on a slot for readers that were set up by a configuration. -/
def onConfigured (slot : Nat) (act : Act (Option (Reader Generator)) Reply) :
    Act (World σ τ) Reply :=
  act.on (·.configured slot) fun w held =>
    { w with configured := Plugin.update w.configured slot held }

/-- Serves a request in a build of the plugin. -/
def serve (build : Build) : Ask σ τ υ → Act (World σ τ) Reply
  | .newReader slot policy source seeds =>
    onReader slot (fillSlot Prod.mk (Reader.build policy source seeds))
  | .readReader slot listener label => onReader slot (readSlot (Reader.read listener label))
  | .newShared slot policy source seeds =>
    onShared slot (fillSlot (fun reader seeds => (Lock.around reader, seeds))
      (Reader.build policy source seeds))
  | .readShared slot listener label => onShared slot (readSlot (SharedReader.read listener label))
  | .newConfigured slot c seeds =>
    match Reader.ofConfig c seeds with
    | .error cause => pure (.refused cause)
    | .ok run => onConfigured slot (fillSlot (fun reader _ => reader) run)
  | .readConfigured slot listener label seeds =>
    onConfigured slot (readSlot (Act.given (Reader.read listener) (label, seeds)))
  | .plugin operation seeds =>
    (do return Reply.plugin (← Act.given (Plugin.perform build) (operation, seeds))).on
      World.plugin fun w plugin => { w with plugin }

end World

/-! ## What labels do -/

/-- Actions on a part of a state go alike if they do on the part. -/
theorem Act.Alike.on {S T α : Type} {x y : Act T α} (h : Act.Alike x y) (get : S → T)
    (put : S → T → S) : Act.Alike (x.on get put) (y.on get put) :=
  fun s => (h (get s)).mapState (put s)

/-- An action that is handed answers goes alike if it does with all answers. -/
theorem Act.Alike.given {ι S T α : Type} {act : ι → Act (S × T) α} {i j : ι}
    (h : Act.Alike (act i) (act j)) (t : T) :
    Act.Alike (Act.given act (i, t)) (Act.given act (j, t)) :=
  fun s => (h (s, t)).mapState Prod.fst

section

variable {τ : Type} {x y : Act (LazyReader × τ) Answer}

/-- Actions on the process-wide reader go alike if they do on that reader. -/
theorem Plugin.onProcess_alike (h : Act.Alike x y) : Act.Alike (onProcess x) (onProcess y) :=
  fun s => (h (s.1.process, s.2)).mapState _

/-- Actions on a reader of the caller's own go alike if they do on that reader. -/
theorem Plugin.onOwn_alike (slot : Nat) (h : Act.Alike x y) :
    Act.Alike (onOwn slot x) (onOwn slot y) :=
  fun s => (h (s.1.own slot, s.2)).mapState _

/-- Actions on a handle go alike if they do on what is behind it. -/
theorem Plugin.onHandle_alike (slot : Nat) {x y : Act (Option (Reader CipherStream) × τ) Answer}
    (h : Act.Alike x y) : Act.Alike (onHandle slot x) (onHandle slot y) :=
  fun s => (h (s.1.handles slot, s.2)).mapState _

end

section

variable {σ τ υ : Type} [RandomSource σ] [SeedSource τ] [SeedSource υ]

namespace Plugin

/-- A read from a lazy reader goes alike for all labels. -/
theorem readLazy_alike (policy : SeedPolicy) (listener : Listener) (label label' : Label) :
    Act.Alike (readLazy policy listener label : Act (LazyReader × υ) Answer)
      (readLazy policy listener label') :=
  (LazyReader.read_alike policy listener label label').map _

/-- So does a read from what is behind a handle, be it no reader. -/
theorem readReader_alike (label label' : Label) :
    Act.Alike (readReader label : Act (Option (Reader CipherStream) × υ) Answer)
      (readReader label') := by
  rintro ⟨slot, seeds⟩
  cases slot with
  | none => exact .refl _
  | some reader =>
    have hread := Reader.read_alike .recording label label' (reader, seeds)
    exact (hread.andThen (k := fun value t => ⟨.value (Answer.reading value), t, []⟩)
      fun _ _ => .refl _).mapState fun t => (some t.1, t.2)

/-- **An operation goes as one without its label does,** also where the model is any bytes. -/
theorem perform_unlabelled (build : Build) (operation : Operation) :
    Act.Alike (perform build operation : Act (Plugin × υ) Answer)
      (perform build operation.unlabelled) := by
  cases operation with
  | exportedRead device model => exact onProcess_alike (readLazy_alike _ _ _ _)
  | processRead policy listener label => exact onProcess_alike (readLazy_alike _ _ _ _)
  | ownRead slot policy listener label => exact onOwn_alike slot (readLazy_alike _ _ _ _)
  | readHandle slot device model => exact onHandle_alike slot (readReader_alike _ _)
  | newHandle slot code seed => exact .refl _
  | freeHandle slot => exact .refl _

end Plugin

namespace World

omit [RandomSource σ] [SeedSource τ] in

/-- Actions on a reader held directly go alike if they do on what is in its slot. -/
theorem onReader_alike (slot : Nat) {x y : Act (Option (Reader σ × τ)) Reply}
    (h : Act.Alike x y) : Act.Alike (onReader slot x) (onReader slot y) :=
  h.on _ _

omit [RandomSource σ] [SeedSource τ] in

/-- Actions on a shared reader go alike if they do on what is in its slot. -/
theorem onShared_alike (slot : Nat) {x y : Act (Option (SharedReader σ × τ)) Reply}
    (h : Act.Alike x y) : Act.Alike (onShared slot x) (onShared slot y) :=
  h.on _ _

omit [RandomSource σ] [SeedSource τ] in

/-- Actions on a configured reader go alike if they do on what is in its slot. Its seeds are not
part of the slot, but handed over with each request. -/
theorem onConfigured_alike (slot : Nat) {x y : Act (Option (Reader Generator)) Reply}
    (h : Act.Alike x y) :
    Act.Alike (onConfigured slot x : Act (World σ τ) Reply) (onConfigured slot y) :=
  h.on _ _

/-- **A request is served as one without its label is.** The cases are the entry points of readers,
of configured readers and of the plugin. -/
theorem serve_unlabelled (build : Build) (request : Ask σ τ υ) :
    Act.Alike (serve build request) (serve build request.unlabelled) := by
  cases request with
  | newReader slot policy source seeds => exact .refl _
  | readReader slot listener label =>
    exact onReader_alike slot (readSlot_alike (Reader.read_alike listener label _))
  | newShared slot policy source seeds => exact .refl _
  | readShared slot listener label =>
    exact onShared_alike slot (readSlot_alike (SharedReader.read_alike listener label _))
  | newConfigured slot c seeds => exact .refl _
  | readConfigured slot listener label seeds =>
    exact onConfigured_alike slot
      (readSlot_alike ((Reader.read_alike listener label _).given seeds))
  | plugin operation seeds =>
    exact (((Plugin.perform_unlabelled build operation).given seeds).map Reply.plugin).on _ _

end World

/-- **Devices and models never influence a reading.** Two histories of requests that are the same
without them go alike: step by step they come to the same, leave the same and make the same calls,
and log the same but for the labels of readings; so the whole logs are the same but for these. -/
theorem histories_alike_but_for_labels (build : Build) (requests requests' : List (Ask σ τ υ))
    (h : requests.map Ask.unlabelled = requests'.map Ask.unlabelled) (w : World σ τ) :
    List.Forall₂ Run.Alike (Act.history (World.serve build) requests w)
        (Act.history (World.serve build) requests' w) ∧
      ((Act.history (World.serve build) requests w).flatMap Run.log).map Event.unlabelled =
        ((Act.history (World.serve build) requests' w).flatMap Run.log).map Event.unlabelled := by
  have hruns := Act.history_alike (World.serve_unlabelled build) h w
  exact ⟨hruns, Act.logs_unlabelled hruns⟩

end

/-- A program builds a reader and a handle, reads from each and is cut short once by its log: for a
device without a model, and for another device with a model that is no text. -/
theorem null_and_garbled_models_alike :
    let requests := fun (label : Label) (model : Option (List UInt8)) =>
      ([.newReader 0 .time (.ofList [.value 5, .panicked]) ⟨[.value (.ok 9), .panicked], []⟩,
        .readReader 0 .recording label, .readReader 0 .failing label,
        .plugin (.newHandle 0 2 7) ⟨0, .ok 3⟩,
        .plugin (.readHandle 0 label.device model) ⟨0, .ok 3⟩,
        .plugin (.readHandle 1 label.device model) ⟨0, .ok 3⟩] :
        List (Ask ReplayedReadings ReplayedSeeds SystemSeeds))
    let plain := requests ⟨1, none⟩ none
    let garbled := requests ⟨-7, some "scale"⟩ (some [0x41, 0xFF, 0, 0x42])
    let world : World ReplayedReadings ReplayedSeeds :=
      ⟨fun _ => none, fun _ => none, fun _ => none, .fresh⟩
    plain.map Ask.unlabelled = garbled.map Ask.unlabelled ∧
      List.Forall₂ Run.Alike (Act.history (World.serve .standard) plain world)
        (Act.history (World.serve .standard) garbled world) ∧
      ((Act.history (World.serve .standard) plain world).flatMap Run.log).map Event.unlabelled =
        ((Act.history (World.serve .standard) garbled world).flatMap Run.log).map
          Event.unlabelled := by
  intro requests plain garbled world
  have h : plain.map Ask.unlabelled = garbled.map Ask.unlabelled := rfl
  exact ⟨h, histories_alike_but_for_labels .standard plain garbled h world⟩

end DeviceReadings
