import MiniOSImage.Model.Ops
/-!
# `tools/create_image.py`

The raw-image tool: `create_arm64_image` reads the kernel and the
bootloader, then writes the bootloader, zero padding up to the next 1 MiB
boundary, the kernel, and zero padding up to 16 MiB; `create_x86_64_image`
prints a note and does the same; `main` checks the inputs, makes the output
directory, and exits 0 or 1 on the writer's answer. Argument parsing is left
to `argparse` and the model starts from the parsed arguments.
-/

namespace MiniOSImage

namespace CreateImage

/-- `except FileNotFoundError`: a missing file is `none`; other exceptions pass. -/
def exceptFileNotFound {α : Type} (x : PyM α) : PyM (Option α) :=
  tryCatch (some <$> x) fun e => match e with
    | .fileNotFound _ => pure none
    | e => throw e

/-- The `with open(output_path, 'wb') as f:` block of `create_arm64_image`. -/
def writeArm64Image (kernelData bootloaderData : Bytes) : PyM Unit := do
  -- Write bootloader at the beginning (sector 0)
  write bootloaderData
  -- Pad to 1MB boundary for kernel
  let currentSize := bootloaderData.length
  let paddingNeeded := 1024 * 1024 - currentSize % (1024 * 1024)
  (if paddingNeeded < 1024 * 1024 then write (zeros paddingNeeded) else pure ())
  -- Write kernel at 1MB offset
  let kernelOffset ← tell
  write kernelData
  print s!"  Kernel offset: 0x{hex08 kernelOffset}"
  -- Pad to minimum image size (16MB)
  let currentSize ← tell
  let minSize := 16 * 1024 * 1024
  (if currentSize < minSize then write (zeros (minSize - currentSize)) else pure ())
  let finalSize ← tell
  print s!"  Final image size: {finalSize} bytes ({finalSize / (1024 * 1024)} MB)"

/-- `create_arm64_image(kernel_path, bootloader_path, output_path)`. -/
def createArm64Image (kernelPath bootloaderPath outputPath : String) : PyM Bool := do
  print s!"Creating ARM64 image: {outputPath}"
  print s!"  Kernel: {kernelPath}"
  print s!"  Bootloader: {bootloaderPath}"
  -- Read kernel and bootloader
  let kernelData? ← exceptFileNotFound do
    let kernelData ← readFile kernelPath
    print s!"  Kernel size: {kernelData.length} bytes"
    pure kernelData
  match kernelData? with
  | none =>
    print s!"Error: Kernel file not found: {kernelPath}"
    pure false
  | some kernelData =>
  let bootloaderData? ← exceptFileNotFound do
    let bootloaderData ← readFile bootloaderPath
    print s!"  Bootloader size: {bootloaderData.length} bytes"
    pure bootloaderData
  match bootloaderData? with
  | none =>
    print s!"Error: Bootloader file not found: {bootloaderPath}"
    pure false
  | some bootloaderData =>
  -- Create image
  tryCatch (do withWriter outputPath (writeArm64Image kernelData bootloaderData); pure true)
    fun e => if e.isOSError then do
        print s!"Error creating image: {e}"
        pure false
      else throw e

/-- `create_x86_64_image(kernel_path, bootloader_path, output_path)`. -/
def createX86_64Image (kernelPath bootloaderPath outputPath : String) : PyM Bool := do
  print s!"Creating x86-64 image: {outputPath}"
  print "  Note: Use create_iso.py for bootable ISO"
  -- For now, create a simple raw image similar to ARM64
  createArm64Image kernelPath bootloaderPath outputPath

/-- `--arch {arm64,x86_64}`. -/
inductive Arch
  | arm64
  | x86_64
  deriving DecidableEq, Repr

instance : ToString Arch := ⟨fun | .arm64 => "arm64" | .x86_64 => "x86_64"⟩

/-- The parsed command line. -/
structure Args where
  arch : Arch
  kernel : String
  bootloader : String
  output : String
  verbose : Bool

/-- `main()`, after `parser.parse_args()`. -/
def main (args : Args) : PyM Unit := do
  (if args.verbose then do
      print "MiniOS Image Creation Tool"
      print s!"Architecture: {args.arch}"
      print (String.mk (List.replicate 40 '='))
    else pure ())
  -- Validate input files
  validateInputs [args.kernel, args.bootloader]
  -- Create output directory if needed
  createOutputDir args.output
  -- Create image based on architecture
  let success ← match args.arch with
    | .arm64 => createArm64Image args.kernel args.bootloader args.output
    | .x86_64 => createX86_64Image args.kernel args.bootloader args.output
  if success then
    print "Image creation successful!"
    sysExit 0
  else
    print "Image creation failed!"
    sysExit 1

end CreateImage

end MiniOSImage
