import MiniOSImage.Common.Bytes
import MiniOSImage.Model.World
import MiniOSImage.Model.Ops
import MiniOSImage.Model.CreateImage
import MiniOSImage.Model.CreateIso
import MiniOSImage.Layout
import MiniOSImage.Writer
import MiniOSImage.RawImage
import MiniOSImage.Chain
import MiniOSImage.IsoMain
import MiniOSImage.ImageMain
import MiniOSImage.TestSuite
