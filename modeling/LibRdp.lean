import LibRdp.Bulk.Rdp6Exact
import LibRdp.Bulk.Rdp61Interleave
import LibRdp.Bulk.Failures
import LibRdp.Bulk.Uncompressed
import LibRdp.Graphics.ZgfxFraming
import LibRdp.Graphics.ZgfxRoundTrip
import LibRdp.Client.StaticMessages
import LibRdp.Server.StaticMessages
import LibRdp.Link.Agreement
import LibRdp.Server.UdpAcknowledge
import LibRdp.Server.GraphicsFrames
import LibRdp.Server.DriveHandles
import LibRdp.Server.DeviceLists
import LibRdp.Server.ClipboardRequests
import LibRdp.Server.FamilyRuns
import LibRdp.Graphics.GdiEncodings
import LibRdp.Graphics.GdiIndependence
import LibRdp.Transport.Udp2Format
import LibRdp.Client.GdiOffscreen
import LibRdp.Client.GdiPlusCache
import LibRdp.Graphics.RfxRlgrBounds
import LibRdp.Graphics.RfxRlgrZeroes
import LibRdp.Connect.Exchange
import LibRdp.Transport.Udp2Wire
import LibRdp.Graphics.RfxRefinement
import LibRdp.Graphics.ClearCodecGlyphs
import LibRdp.Graphics.BitmapDecoding
import LibRdp.Client.WireToSurface
import LibRdp.Client.GraphicsRuns
import LibRdp.Graphics.NsCodecRuns
import LibRdp.Server.DriveDirectory
import LibRdp.Graphics.ColourPaths
import LibRdp.Connect.X224
import LibRdp.Channels.SoftSync
import LibRdp.Client.FastpathUpdates
import LibRdp.Graphics.GdiFill
import LibRdp.Client.GdiSaveRestore
import LibRdp.Graphics.GdiOrderSplit
import LibRdp.Channels.WebauthnMessages
import LibRdp.Server.SurfaceRuns
import LibRdp.Security.Lockstep
