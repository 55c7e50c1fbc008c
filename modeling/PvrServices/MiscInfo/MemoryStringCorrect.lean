import PvrServices.MiscInfo.MemoryString

/-!
# When the memory string stays in its buffer

The traversals print headings and reports one after another, and stay in the
buffer as long as no text is longer than what is left of it.  The line at the
end of the statistics needs two bytes, which nothing makes sure of.
-/

namespace PvrServices.MiscInfo

open BoundedPrint
open Printer (extends_print print printItems printItems_append)

variable {kernel : Kernel} {ui32Mode : BitVec 32} {printer : Printer Char}
  {capacity : Nat} {sysData : SysData} {psMiscInfo : MiscInfoKM}

/-! ## Headings and reports of a traversal -/

section Items

variable (kernel : Kernel) (ui32Mode : BitVec 32)

/-- The report of an arena, if there is one. -/
def arenaItems : Option RaArena → List (Item Char)
  | none => []
  | some pArena =>
    if ui32Mode = memStatsPresent then
      [.report (raGetStatsTexts kernel pArena)]
    else [.report [raGetStatsFreeMemText pArena]]

/-- The reports of the heaps. -/
def heapItems (heaps : List BMHeap) : List (Item Char) :=
  if ui32Mode = memStatsPresent ∨ ui32Mode = freeMemPresent then
    heaps.flatMap fun psBMHeap =>
      arenaItems kernel ui32Mode psBMHeap.pImportArena ++
        arenaItems kernel ui32Mode psBMHeap.pVMArena
  else []

/-- A context with its heaps. -/
def contextItems (psBMContext : BMContext) : List (Item Char) :=
  .heading (contextText kernel psBMContext) ::
    heapItems kernel ui32Mode psBMContext.psBMHeap

/-- The kernel context, if there is one. -/
def kernelContextItems : Option BMContext → List (Item Char)
  | none => []
  | some pBMKernelContext =>
    .heading kernelContextText ::
      heapItems kernel ui32Mode pBMKernelContext.psBMHeap

/-- A device with its contexts. -/
def deviceItems (psDeviceNode : DeviceNode) : List (Item Char) :=
  .heading (deviceText psDeviceNode) ::
    (kernelContextItems kernel ui32Mode psDeviceNode.pBMKernelContext ++
      psDeviceNode.pBMContext.flatMap (contextItems kernel ui32Mode))

/-- An arena of local memory. -/
def localItems (pArena : RaArena) : List (Item Char) :=
  [.heading localText, .report (raGetStatsTexts kernel pArena)]

end Items

theorem printItems_arenaItems
    (pArena : Option RaArena) :
    printer.printItems nul space (arenaItems kernel ui32Mode pArena) =
      (match pArena with
        | none => printer
        | some pArena =>
          if ui32Mode = memStatsPresent then
            raGetStats kernel pArena printer
          else raGetStatsFreeMem pArena printer, true) := by
  cases pArena with
  | none => rfl
  | some pArena =>
    unfold arenaItems
    dsimp only
    split <;> rfl

theorem forEachHeap_eq
    (heaps : List BMHeap) :
    printer.printItems nul space (heapItems kernel ui32Mode heaps) =
      (forEachHeap kernel ui32Mode heaps printer, true) := by
  unfold heapItems
  split
  · next mode =>
      induction heaps generalizing printer with
      | nil => rfl
      | cons psBMHeap rest ih =>
        rw [List.flatMap_cons, List.append_assoc,
          printItems_append, printItems_arenaItems]
        dsimp only
        rw [printItems_append, printItems_arenaItems]
        dsimp only
        change _ = (forEachHeap kernel ui32Mode rest
          (raGetStatsForEachVaCb kernel ui32Mode psBMHeap printer), true)
        rw [raGetStatsForEachVaCb, if_pos mode]
        exact ih
  · next mode =>
      rw [printItems, forEachHeap]
      congr 1
      induction heaps with
      | nil => rfl
      | cons psBMHeap rest ih =>
        rw [List.foldl_cons, raGetStatsForEachVaCb, if_neg mode]
        exact ih

/-- A heading in front of a traversal. -/
theorem printItems_heading
    (text : Text)
    (items : List (Item Char)) :
    printer.printItems nul space (.heading text :: items) =
      match printHeading text printer with
      | (after, true) => after.printItems nul space items
      | (after, false) => (after, false) := by
  rw [printItems, printHeading]
  split <;> rfl

theorem anyContext_eq
    (contexts : List BMContext) :
    printer.printItems nul space
        (contexts.flatMap (contextItems kernel ui32Mode)) =
      anyContext kernel ui32Mode contexts printer := by
  induction contexts generalizing printer with
  | nil => rfl
  | cons psBMContext rest ih =>
    rw [List.flatMap_cons, contextItems, List.cons_append,
      printItems_heading, anyContext, bmContextAnyVaCb]
    rcases printHeading (contextText kernel psBMContext) printer with
      ⟨after, begun⟩
    cases begun with
    | false => rfl
    | true =>
      dsimp only
      rw [printItems_append, forEachHeap_eq]
      exact ih

theorem anyDevice_eq
    (devices : List DeviceNode) :
    printer.printItems nul space
        (devices.flatMap (deviceItems kernel ui32Mode)) =
      anyDevice kernel ui32Mode devices printer := by
  induction devices generalizing printer with
  | nil => rfl
  | cons psDeviceNode rest ih =>
    rw [List.flatMap_cons, deviceItems, List.cons_append,
      printItems_heading, anyDevice, deviceAnyVaCb]
    rcases printHeading (deviceText psDeviceNode) printer with
      ⟨after, begun⟩
    cases begun with
    | false => rfl
    | true =>
      dsimp only
      rw [printItems_append, printItems_append]
      cases psDeviceNode.pBMKernelContext with
      | none =>
        rw [kernelContextItems, printItems]
        dsimp only
        rw [anyContext_eq]
        rcases anyContext kernel ui32Mode psDeviceNode.pBMContext after
          with ⟨last, completed⟩
        cases completed with
        | false => rfl
        | true => exact ih
      | some pBMKernelContext =>
        rw [kernelContextItems, printItems_heading]
        dsimp only
        rcases printHeading kernelContextText after with
          ⟨last, begunToo⟩
        cases begunToo with
        | false => rfl
        | true =>
          dsimp only
          rw [forEachHeap_eq]
          dsimp only
          rw [anyContext_eq]
          rcases anyContext kernel ui32Mode psDeviceNode.pBMContext
              (forEachHeap kernel ui32Mode pBMKernelContext.psBMHeap
                last) with ⟨ended, completed⟩
          cases completed with
          | false => rfl
          | true => exact ih

theorem localArenas_eq
    (arenas : List RaArena) :
    printer.printItems nul space (arenas.flatMap (localItems kernel)) =
      localArenas kernel arenas printer := by
  induction arenas generalizing printer with
  | nil => rfl
  | cons pArena rest ih =>
    rw [List.flatMap_cons, localItems, List.cons_append,
      printItems_heading, localArenas]
    rcases printHeading localText printer with ⟨after, begun⟩
    cases begun with
    | false => rfl
    | true => exact ih

/-! ## The line at the end -/

/-- The items fit, and two bytes are left for the line behind them. -/
structure LineFits (left : Nat) (items : List (Item Char)) : Prop where
  fits : ItemsFit space left items
  line : 2 ≤ (itemsLeft space left items).1

/-- The line that ends the statistics needs two bytes. -/
theorem printNewline_inside
    (inStep : printer.InStep capacity)
    (inside : (printNewline printer).Inside capacity) :
    2 ≤ printer.left := by
  have step := inStep.step
  have last := inside.stored (printer.position + 1) (by
    simp only [printNewline, print, List.length_singleton, space]
    rw [if_neg (by omega), if_neg (by omega)]
    exact Option.some_ne_none _)
  omega

/-- The devices with the line behind them. -/
theorem anyDevice_line
    (inStep : printer.InStep capacity)
    (devices : List DeviceNode) :
    (LineFits printer.left
          (devices.flatMap (deviceItems kernel ui32Mode)) →
        (printNewline (anyDevice kernel ui32Mode devices printer).1).InStep
          capacity) ∧
      ((printNewline (anyDevice kernel ui32Mode devices printer).1).Inside
          capacity →
        LineFits printer.left
          (devices.flatMap (deviceItems kernel ui32Mode))) := by
  rw [← anyDevice_eq]
  constructor
  · intro fits
    obtain ⟨after, prints, next, left⟩ :=
      @Printer.InStep.printItems Char nul space capacity printer _ inStep
        fits.fits
    have line := fits.line
    rw [← left] at line
    rw [prints]
    have short : ['\n'].length < after.left := line
    exact (next.print (.inr short) (Nat.le_of_lt short)).1
  · intro inside
    by_cases fits : ItemsFit space printer.left
        (devices.flatMap (deviceItems kernel ui32Mode))
    · obtain ⟨after, prints, next, left⟩ :=
        @Printer.InStep.printItems Char nul space capacity printer _ inStep
          fits
      rw [prints] at inside
      refine ⟨fits, ?_⟩
      rw [← left]
      exact printNewline_inside next inside
    · have wraps :=
        @Printer.InStep.printItems_wraps Char nul space capacity printer _
          inStep fits
      have exact := (inside.of_extends extends_print).exact
      rw [wraps] at exact
      cases exact

/-! ## The version -/

/-- Numbers of up to ten digits fit behind the test that precedes them. -/
theorem printVersion_inStep
    {numbers : List Nat}
    (digits : ∀ number ∈ numbers, (formatUnsigned number).length ≤ 10)
    (inStep : printer.InStep capacity) :
    (printVersion numbers printer).1.InStep capacity := by
  induction numbers generalizing printer with
  | nil => exact inStep
  | cons number rest ih =>
    have short := digits number (List.mem_cons_self ..)
    have digitsRest : ∀ number ∈ rest,
        (formatUnsigned number).length ≤ 10 :=
      fun other member => digits other (List.mem_cons_of_mem _ member)
    rw [printVersion]
    split
    · exact inStep
    · next room =>
        rw [Nat.not_lt] at room
        simp only [ui32LenStrPerNum] at room
        obtain ⟨next, left⟩ :=
          @Printer.InStep.print Char nul capacity ui32LenStrPerNum printer
            (formatUnsigned number) inStep (.inl room) (by omega)
        refine ih digitsRest ?_
        split
        · exact next
        · exact (next.print (.inl (by omega))
            (by rw [List.length_singleton]; omega)).1

theorem extends_printVersion
    (numbers : List Nat) :
    printer.Extends (printVersion numbers printer).1 := by
  induction numbers generalizing printer with
  | nil => exact .refl printer
  | cons number rest ih =>
    rw [printVersion]
    split
    · exact .refl printer
    · refine .trans ?_ ih
      split
      · exact extends_print
      · exact extends_print.trans extends_print

/-! ## The whole string -/

/-- The arenas of local memory are printed to the end. -/
def LocalsPrinted
    (kernel : Kernel) (sysData : SysData) (capacity : Nat) : Prop :=
  (itemsLeft space capacity
    (sysData.apsLocalDevMemArena.flatMap (localItems kernel))).2 = true

/-- The statistics fit, with the line behind them if the arenas of local
memory are printed to the end. -/
structure StatsFit
    (kernel : Kernel) (sysData : SysData) (capacity : Nat) : Prop where
  locals : ItemsFit space capacity
    (sysData.apsLocalDevMemArena.flatMap (localItems kernel))
  devices : LocalsPrinted kernel sysData capacity →
    LineFits
      (itemsLeft space capacity
        (sysData.apsLocalDevMemArena.flatMap (localItems kernel))).1
      (sysData.psDeviceNodeList.flatMap (deviceItems kernel memStatsPresent))

/-- The parts of a valid request fit, one by one from the beginning of the
string. -/
structure Fits
    (kernel : Kernel) (sysData : SysData) (psMiscInfo : MiscInfoKM) :
    Prop where
  stats : psMiscInfo.asks memStatsPresent = true →
    StatsFit kernel sysData psMiscInfo.ui32MemoryStrLen
  free : psMiscInfo.asks freeMemPresent = true →
    (psMiscInfo.asks memStatsPresent = true →
      LocalsPrinted kernel sysData psMiscInfo.ui32MemoryStrLen) →
    LineFits psMiscInfo.ui32MemoryStrLen
      (sysData.psDeviceNodeList.flatMap (deviceItems kernel freeMemPresent))

/-- The statistics end in the middle or with their line. -/
theorem memStats_inside
    (inStep : printer.InStep capacity)
    (start : printer.left = capacity) :
    (StatsFit kernel sysData capacity →
        (memStats kernel sysData printer).1.InStep capacity ∧
          ((memStats kernel sysData printer).2 = true ↔
            LocalsPrinted kernel sysData capacity)) ∧
      ((memStats kernel sysData printer).1.Inside capacity →
        StatsFit kernel sysData capacity) := by
  unfold memStats
  rw [← localArenas_eq]
  by_cases fits : ItemsFit space printer.left
      (sysData.apsLocalDevMemArena.flatMap (localItems kernel))
  · obtain ⟨after, prints, next, left⟩ :=
      @Printer.InStep.printItems Char nul space capacity printer _ inStep fits
    rw [start] at prints left fits
    rw [prints]
    cases printed : (itemsLeft space capacity
        (sysData.apsLocalDevMemArena.flatMap (localItems kernel))).2 with
    | false =>
      have stopped : ¬ LocalsPrinted kernel sysData capacity := by
        rw [LocalsPrinted, printed]
        exact Bool.false_ne_true
      dsimp only
      refine ⟨fun _ => ⟨next, ⟨nofun, fun all => absurd all stopped⟩⟩,
        fun _ => ⟨fits, fun all => absurd all stopped⟩⟩
    | true =>
      dsimp only
      obtain ⟨keeps, needs⟩ :=
        @anyDevice_line kernel memStatsPresent after capacity next
          sysData.psDeviceNodeList
      rw [left] at keeps needs
      exact ⟨fun stats => ⟨keeps (stats.devices printed),
          ⟨fun _ => printed, fun _ => rfl⟩⟩,
        fun inside => ⟨fits, fun _ => needs inside⟩⟩
  · have wraps :=
      @Printer.InStep.printItems_wraps Char nul space capacity printer _
        inStep fits
    rw [start] at fits
    refine ⟨fun stats => absurd stats.locals fits, fun inside => ?_⟩
    rcases printed : printer.printItems nul space
        (sysData.apsLocalDevMemArena.flatMap (localItems kernel)) with
      ⟨after, completed⟩
    rw [printed] at wraps inside
    have exact : after.wrapped = false := by
      cases completed with
      | false => exact inside.exact
      | true =>
        have inside := inside.of_extends extends_print
        rw [← anyDevice_eq] at inside
        exact (inside.of_extends (Printer.extends_printItems _)).exact
    rw [wraps] at exact
    cases exact

/-- The parts behind the statistics start again where nothing is printed. -/
theorem behindStats_inside
    (inStep : printer.InStep psMiscInfo.ui32MemoryStrLen) :
    (getMiscInfoBehindStats kernel sysData psMiscInfo printer).1.Inside
        psMiscInfo.ui32MemoryStrLen ↔
      (psMiscInfo.asks freeMemPresent = true →
        LineFits psMiscInfo.ui32MemoryStrLen
          (sysData.psDeviceNodeList.flatMap
            (deviceItems kernel freeMemPresent))) := by
  have restarts : ∀ printer : Printer Char,
      printer.Inside psMiscInfo.ui32MemoryStrLen →
        (printer.restart psMiscInfo.ui32MemoryStrLen).InStep
          psMiscInfo.ui32MemoryStrLen := by
    intro printer inside
    exact ⟨⟨inside.stored, inside.exact⟩, inStep.word, Nat.zero_add _⟩
  have digits : ∀ number ∈ aui32DDKVersion,
      (formatUnsigned number).length ≤ 10 := by decide
  obtain ⟨freed, isFreed⟩ : ∃ freed, freed =
      if psMiscInfo.asks freeMemPresent then
        freeMem kernel sysData (printer.restart psMiscInfo.ui32MemoryStrLen)
      else printer := ⟨_, rfl⟩
  have free : freed.Inside psMiscInfo.ui32MemoryStrLen ↔
      (psMiscInfo.asks freeMemPresent = true →
        LineFits psMiscInfo.ui32MemoryStrLen
          (sysData.psDeviceNodeList.flatMap
            (deviceItems kernel freeMemPresent))) := by
    rw [isFreed]
    cases asks : psMiscInfo.asks freeMemPresent with
    | false => exact ⟨fun _ impossible => (nomatch impossible),
        fun _ => inStep.inside⟩
    | true =>
      obtain ⟨keeps, needs⟩ :=
        @anyDevice_line kernel freeMemPresent _ _
          (restarts printer inStep.inside) sysData.psDeviceNodeList
      exact ⟨fun inside _ => needs inside,
        fun fits => (keeps (fits rfl)).inside⟩
  rw [← free]
  unfold getMiscInfoBehindStats
  dsimp only
  rw [← isFreed]
  split
  · have printed : (printVersion aui32DDKVersion
          (freed.restart psMiscInfo.ui32MemoryStrLen)).1.Inside
          psMiscInfo.ui32MemoryStrLen ↔
        freed.Inside psMiscInfo.ui32MemoryStrLen := by
      constructor
      · intro inside
        have restarted := inside.of_extends (extends_printVersion _)
        exact ⟨restarted.stored, restarted.exact⟩
      · intro inside
        exact (printVersion_inStep digits (restarts freed inside)).inside
    rw [← printed]
    rcases printVersion aui32DDKVersion
        (freed.restart psMiscInfo.ui32MemoryStrLen) with ⟨last, completed⟩
    cases completed <;> exact Iff.rfl
  · exact Iff.rfl

theorem extends_behindStats :
    printer.Extends
      (getMiscInfoBehindStats kernel sysData psMiscInfo printer).1 := by
  unfold getMiscInfoBehindStats
  obtain ⟨freed, isFreed⟩ : ∃ freed, freed =
      if psMiscInfo.asks freeMemPresent then
        freeMem kernel sysData (printer.restart psMiscInfo.ui32MemoryStrLen)
      else printer := ⟨_, rfl⟩
  have extended : printer.Extends freed := by
    rw [isFreed]
    split
    · have restarted : printer.Extends
          (printer.restart psMiscInfo.ui32MemoryStrLen) :=
        ⟨fun _ stored => stored, id⟩
      refine restarted.trans (.trans ?_ extends_print)
      rw [← anyDevice_eq]
      exact Printer.extends_printItems _
    · exact .refl printer
  dsimp only
  rw [← isFreed]
  split
  · have printed := @extends_printVersion
      (freed.restart psMiscInfo.ui32MemoryStrLen) aui32DDKVersion
    rcases last : printVersion aui32DDKVersion
        (freed.restart psMiscInfo.ui32MemoryStrLen) with ⟨after, completed⟩
    rw [last] at printed
    have both := extended.trans ⟨printed.stored, printed.wrapped⟩
    cases completed <;> exact both
  · exact extended

/-- Everything that is printed stays in the first `ui32MemoryStrLen` bytes,
and the remaining length never wraps, if and only if the parts of the request
fit. -/
theorem pvrsrvGetMiscInfoKM_inside_iff
    (kernel : Kernel)
    (sysData : SysData)
    (psMiscInfo : MiscInfoKM)
    (word : psMiscInfo.ui32MemoryStrLen < 2 ^ 32) :
    (pvrsrvGetMiscInfoKM kernel sysData psMiscInfo).1.Inside
        psMiscInfo.ui32MemoryStrLen ↔
      (psMiscInfo.ui32StateRequest &&& ~~~requestFlags = 0 →
        Fits kernel sysData psMiscInfo) := by
  obtain ⟨printer, isPrinter⟩ : ∃ printer : Printer Char, printer =
      { position := 0
        left := psMiscInfo.ui32MemoryStrLen
        contents := fun _ => none
        wrapped := false } := ⟨_, rfl⟩
  have inStep : printer.InStep psMiscInfo.ui32MemoryStrLen := by
    rw [isPrinter]
    exact ⟨⟨fun _ stored => absurd rfl stored, rfl⟩, word, Nat.zero_add _⟩
  have start : printer.left = psMiscInfo.ui32MemoryStrLen := by
    rw [isPrinter]
  unfold pvrsrvGetMiscInfoKM
  rw [← isPrinter]
  dsimp only
  split
  · next invalid =>
      exact ⟨fun _ valid => absurd valid invalid, fun _ => inStep.inside⟩
  · next valid =>
      rw [not_not] at valid
      split
      · next asks =>
          obtain ⟨keeps, needs⟩ :=
            @memStats_inside kernel printer _ sysData inStep start
          rcases stats : memStats kernel sysData printer with
            ⟨after, completed⟩
          rw [stats] at keeps needs
          cases completed with
          | false =>
            refine ⟨fun inside _ => ⟨fun _ => needs inside, ?_⟩,
              fun fits => (keeps ((fits valid).stats asks)).1.inside⟩
            intro _ printed
            exact nomatch (keeps (needs inside)).2.mpr (printed asks)
          | true =>
            constructor
            · intro inside _
              have fits := needs (inside.of_extends extends_behindStats)
              have free := (behindStats_inside (keeps fits).1).mp inside
              exact ⟨fun _ => fits, fun asksFree _ => free asksFree⟩
            · intro fits
              obtain ⟨next, printed⟩ := keeps ((fits valid).stats asks)
              exact (behindStats_inside next).mpr fun asksFree =>
                (fits valid).free asksFree fun _ => printed.mp rfl
      · next quiet =>
          rw [behindStats_inside inStep]
          exact ⟨fun free _ => ⟨fun asks => absurd asks quiet,
              fun asksFree _ => free asksFree⟩,
            fun fits asksFree => (fits valid).free asksFree
              fun asks => absurd asks quiet⟩

/-- An arena with one free span of a page. -/
def pageArena : RaArena where
  name := "General".toList
  pImportAlloc := 0x1000
  pImportFree := 0x2000
  pImportHandle := 0x3000
  uQuantum := 0x1000
  sStatistics := ⟨1, 0, 1, 0x1000, 0, 0, 0, 0⟩
  segments := [⟨0, 0x400000, 0x1000, 0⟩, ⟨1, 0x400000, 0x1000, 0⟩]
  headHasPrev := false
  tailHasNext := false

/-- A system with one device, whose kernel context has one heap. -/
def oneDevice : SysData where
  apsLocalDevMemArena := []
  psDeviceNodeList := [⟨7, some ⟨0x5000, [⟨some pageArena, none⟩]⟩, []⟩]

/-- A request for the statistics, with a buffer of the given length. -/
def statsRequest (ui32MemoryStrLen : Nat) : MiscInfoKM where
  ui32StateRequest := memStatsPresent
  pszMemoryStr := 0x1000
  ui32MemoryStrLen

/-- A kernel that prints pointers with a fixed text. -/
def plainKernel : Kernel where
  formatPointer _ := List.replicate 16 '0'

theorem pvrsrvGetMiscInfoKM_inside_iff_line :
    (pvrsrvGetMiscInfoKM plainKernel oneDevice (statsRequest 1000)).1.Inside
        1000 ↔
      ((statsRequest 1000).ui32StateRequest &&& ~~~requestFlags = 0 →
        Fits plainKernel oneDevice (statsRequest 1000)) :=
  pvrsrvGetMiscInfoKM_inside_iff plainKernel oneDevice (statsRequest 1000)
    (by decide)

/-- With a buffer of one byte, the line at the end stores its terminator
behind the buffer. -/
theorem pvrsrvGetMiscInfoKM_behindBuffer :
    ¬ ∀ (kernel : Kernel) (sysData : SysData) (psMiscInfo : MiscInfoKM),
      psMiscInfo.ui32MemoryStrLen < 2 ^ 32 →
        (pvrsrvGetMiscInfoKM kernel sysData psMiscInfo).1.Inside
          psMiscInfo.ui32MemoryStrLen := by
  intro always
  have inside := always plainKernel oneDevice (statsRequest 1) (by decide)
  have stored : (pvrsrvGetMiscInfoKM plainKernel oneDevice
      (statsRequest 1)).1.contents 1 ≠ none := by decide
  exact absurd (inside.stored 1 stored) (by decide)

end PvrServices.MiscInfo
