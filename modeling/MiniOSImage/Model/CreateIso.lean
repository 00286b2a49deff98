import MiniOSImage.Model.Ops
/-!
# `tools/create_iso.py`

The optical-disc tool. `main` stages the kernel, the bootloader and a GRUB
menu in a temporary directory (`create_iso_structure`), then tries the
packaging backends in order: `grub-mkrescue` (`create_iso_with_grub`), then
`mkisofs` or `genisoimage` with El Torito options
(`create_iso_with_mkisofs`), and, when neither reports success, a raw
concatenation of bootloader and kernel with 512-byte sector padding and a
2 MiB floor (`create_simple_iso`). Paths under the temporary directory are
kept relative to it.
-/

namespace MiniOSImage

namespace CreateIso

/-- `' '.join(cmd)`. -/
def joinArgs (cmd : List String) : String := " ".intercalate cmd

/-- The text `create_iso_structure` writes to `boot/grub/grub.cfg`. -/
def grubCfg : String :=
  "set timeout=5\nset default=0\n\nmenuentry \"MiniOS\" \x7b\n    multiboot2 /boot/kernel.elf\n    boot\n\x7d\n\nmenuentry \"MiniOS (Debug)\" \x7b\n    multiboot2 /boot/kernel.elf debug\n    boot\n\x7d\n"

/-- A text file written with `open(path, 'w')`: its UTF-8 bytes. -/
def encodeUtf8 (s : String) : Bytes := s.toUTF8.data.toList

/-- `create_iso_structure(kernel_path, bootloader_path, temp_dir)`. -/
def createIsoStructure (kernelPath bootloaderPath tempDir : String) : PyM Bool := do
  -- Create boot directory
  makedirsStaged "boot"
  -- Copy kernel
  copy2 kernelPath "boot/kernel.elf"
  -- Copy bootloader
  copy2 bootloaderPath "boot/bootloader.bin"
  -- Create GRUB configuration
  makedirsStaged "boot/grub"
  writeStaged "boot/grub/grub.cfg" (encodeUtf8 grubCfg)
  print s!"Created ISO structure in: {tempDir}"
  pure true

/-- `create_iso_with_grub(temp_dir, output_path)`. -/
def createIsoWithGrub (tempDir outputPath : String) : PyM Bool :=
  tryCatch (do
      -- Check if grub-mkrescue is available
      let result ← run ["which", "grub-mkrescue"]
      if result.returncode ≠ 0 then pure false else do
      -- Create ISO with GRUB
      let cmd := ["grub-mkrescue", "-o", outputPath, tempDir]
      print s!"Running: {joinArgs cmd}"
      let result ← run cmd
      if result.returncode = 0 then
        print "ISO created with GRUB successfully"
        pure true
      else
        print s!"GRUB error: {result.stderr}"
        pure false)
    fun e => if e.isException then do
        print s!"GRUB not available: {e}"
        pure false
      else throw e

/-- The loop `for cmd_name in ['mkisofs', 'genisoimage']` of
`create_iso_with_mkisofs`: the first of the tools that is installed and
exits 0 wins. -/
def tryIsoMasters (tempDir outputPath : String) : List String → PyM Bool
  | [] => pure false
  | cmdName :: rest => do
    let result ← run ["which", cmdName]
    if result.returncode = 0 then
      -- Create El Torito bootable ISO
      let cmd := [cmdName, "-b", "boot/bootloader.bin", "-no-emul-boot", "-boot-load-size", "4",
        "-boot-info-table", "-o", outputPath, tempDir]
      print s!"Running: {joinArgs cmd}"
      let result ← run cmd
      if result.returncode = 0 then
        print s!"ISO created with {cmdName} successfully"
        pure true
      else
        print s!"{cmdName} error: {result.stderr}"
        tryIsoMasters tempDir outputPath rest
    else tryIsoMasters tempDir outputPath rest

/-- `create_iso_with_mkisofs(temp_dir, output_path, bootloader_path)`; the
bootloader path is not read. -/
def createIsoWithMkisofs (tempDir outputPath _bootloaderPath : String) : PyM Bool :=
  tryCatch (tryIsoMasters tempDir outputPath ["mkisofs", "genisoimage"])
    fun e => if e.isException then do
        print s!"mkisofs/genisoimage error: {e}"
        pure false
      else throw e

/-- The `with open(output_path, 'wb') as f:` block of `create_simple_iso`. -/
def writeSimpleIso (kernelPath bootloaderPath : String) : PyM Unit := do
  -- Write bootloader
  let bootloaderData ← readFile bootloaderPath
  write bootloaderData
  -- Pad to sector boundary (512 bytes)
  let currentPos ← tell
  let sectorSize := 512
  let padding := sectorSize - currentPos % sectorSize
  (if padding ≠ sectorSize then write (zeros padding) else pure ())
  -- Write kernel
  let kernelData ← readFile kernelPath
  write kernelData
  -- Pad to minimum size (2MB)
  let currentPos ← tell
  let minSize := 2 * 1024 * 1024
  (if currentPos < minSize then write (zeros (minSize - currentPos)) else pure ())

/-- `create_simple_iso(kernel_path, bootloader_path, output_path)`. -/
def createSimpleIso (kernelPath bootloaderPath outputPath : String) : PyM Bool := do
  print "Creating simple disk image (not bootable ISO)"
  print "Install grub-mkrescue or mkisofs for proper ISO creation"
  tryCatch (do withWriter outputPath (writeSimpleIso kernelPath bootloaderPath); pure true)
    fun e => if e.isException then do
        print s!"Error creating simple image: {e}"
        pure false
      else throw e

/-- The parsed command line. -/
structure Args where
  kernel : String
  bootloader : String
  output : String
  verbose : Bool

/-- The body of `with tempfile.TemporaryDirectory() as temp_dir:` in `main`:
stage the tree, then the backends in their order. -/
def packageIso (args : Args) (tempDir : String) : PyM Bool := do
  -- Create ISO directory structure
  if ← createIsoStructure args.kernel args.bootloader tempDir then
    -- Try different methods to create ISO
    if ← createIsoWithGrub tempDir args.output then pure true
    else if ← createIsoWithMkisofs tempDir args.output args.bootloader then pure true
    else
      -- Fallback to simple image
      createSimpleIso args.kernel args.bootloader args.output
  else pure false

/-- `main()`, after `parser.parse_args()`. -/
def main (args : Args) : PyM Unit := do
  (if args.verbose then do
      print "MiniOS ISO Creation Tool"
      print (String.mk (List.replicate 40 '='))
    else pure ())
  -- Validate input files
  validateInputs [args.kernel, args.bootloader]
  -- Create output directory if needed
  createOutputDir args.output
  -- Use temporary directory for ISO structure
  let success ← withTempDirectory (packageIso args)
  if success then
    (if ← pathExists args.output then do
        let size ← getsize args.output
        print s!"ISO creation successful: {args.output}"
        print s!"Size: {size} bytes ({size / (1024 * 1024)} MB)"
      else pure ())
    sysExit 0
  else
    print "ISO creation failed!"
    sysExit 1

end CreateIso

end MiniOSImage
