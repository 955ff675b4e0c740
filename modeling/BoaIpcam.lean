import BoaIpcam.Base64
import BoaIpcam.Session.Counter
import BoaIpcam.Session.References
import BoaIpcam.Session.Revocation
import BoaIpcam.Session.Table
import BoaIpcam.Tunnel.Segments
import BoaIpcam.Uri.Gate
import BoaIpcam.Uri.Form
import BoaIpcam.Tunnel.Handover
import BoaIpcam.Page.Exact
import BoaIpcam.Api.Tables
import BoaIpcam.Sd.Confined
import BoaIpcam.Uri.Rename
import BoaIpcam.Config.IpFilter
import BoaIpcam.Config.Ports
import BoaIpcam.Ptz.EptzTour
import BoaIpcam.Ptz.Rs485
import BoaIpcam.Ptz.Visca
import BoaIpcam.Events.Entries
import BoaIpcam.Events.Profiles
import BoaIpcam.Tunnel.Drain
import BoaIpcam.Uri.Logline
import BoaIpcam.Sd.Paging
import BoaIpcam.Rtsp.VideoSource
import BoaIpcam.Stream.Framing
import BoaIpcam.Config.Copies
import BoaIpcam.Request.Ownership
import BoaIpcam.Request.Restart
import BoaIpcam.Request.Accounts
import BoaIpcam.Nipca.Announced
import BoaIpcam.Lib.Accesses
import BoaIpcam.Lib.CyclicSpans
import BoaIpcam.Config.IpFilterBounds
import BoaIpcam.Config.Address
import BoaIpcam.Config.Exposure
import BoaIpcam.Config.ExposureTexts
import BoaIpcam.Ptz.Relative
import BoaIpcam.Session.UserList
import BoaIpcam.Sd.Listing
import BoaIpcam.Events.Splitting
import BoaIpcam.Ptz.AutoPatrol
import BoaIpcam.Api.CoProcessor
import BoaIpcam.Events.MediaFlags
import BoaIpcam.Ptz.Pelco
import BoaIpcam.Config.NipcaVideoKept
import BoaIpcam.Config.ArgumentOrder
import BoaIpcam.Stream.ProfileNumbers
import BoaIpcam.Page.ShowAll
import BoaIpcam.Stream.JpegHeader
import BoaIpcam.Rtsp.JpegExact
import BoaIpcam.Rtsp.SpropExact
import BoaIpcam.Ptz.SerialDecoding
import BoaIpcam.Page.EscapeChar
import BoaIpcam.Files.MmapCache
import BoaIpcam.Relay.Served
import BoaIpcam.Relay.Escapes
import BoaIpcam.Intake.Environment
import BoaIpcam.Intake.Requests
import BoaIpcam.Uri.SiteTables
import BoaIpcam.Uri.Confined
import BoaIpcam.Select.Wakeups
import BoaIpcam.Files.Revalidation
