import LspRelay.Host.Files.Basic

namespace LspRelay.Files

def words (s : String) : List String := (s.toList.splitOn ' ').map String.ofList

def userPrograms : List String :=
  words ("[ addpart apt apt-cache apt-cdrom apt-config apt-get apt-key apt-mark arch awk b2sum " ++
    "base32 base64 basename basenc bash captoinfo cat chage chattr chcon chfn chgrp chmod " ++
    "choom chown chrt chsh cksum clear clear_console cmp comm cp csplit cut dash date dd " ++
    "delpart df diff diff3 dir dircolors dirname dmesg dnsdomainname domainname dpkg " ++
    "dpkg-deb dpkg-divert dpkg-query dpkg-realpath dpkg-split dpkg-statoverride dpkg-trigger du " ++
    "echo egrep env expand expiry expr factor faillog fallocate false fgrep find findmnt " ++
    "flock fmt fold free getconf getent getopt gpasswd grep groups gunzip gzexe gzip " ++
    "hardlink head hostid hostname i386 iconv id infocmp infotocap install ionice ipcmk " ++
    "ipcrm ipcs ischroot join kill last lastb lastlog ld.so ldd link linux32 linux64 ln " ++
    "locale localedef logger login logname ls lsattr lsblk lscpu lsipc lslocks lslogins " ++
    "lsmem lsns mawk mcookie md5sum mesg mkdir mkfifo mknod mktemp more mount mountpoint mv " ++
    "namei nawk newgrp nice nisdomainname nl nohup nproc nsenter numfmt od pager partx " ++
    "passwd paste pathchk perl pgrep pidof pinky pkill pldd pmap pr printenv printf prlimit " ++
    "ps ptx pwd pwdx rbash readlink realpath renice reset resizepart rev rgrep rm rmdir " ++
    "run-parts runcon savelog script scriptlive scriptreplay sdiff sed select-editor " ++
    "sensible-browser sensible-editor sensible-pager sensible-terminal seq setarch setpriv " ++
    "setsid setterm sg sh sha1sum sha224sum sha256sum sha384sum sha512sum shred shuf skill " ++
    "slabtop sleep snice sort split stat stdbuf stty su sum sync tabs tac tail tar taskset " ++
    "tee tempfile test tic timeout tload toe top touch tput tr true truncate tset tsort tty " ++
    "tzselect uclampset umount uname uncompress unexpand uniq unlink unshare " ++
    "update-alternatives uptime users utmpdump vdir vmstat w wall watch wc wdctl whereis which " ++
    "which.debianutils who whoami x86_64 xargs yes ypdomainname zcat zcmp zdiff zdump " ++
    "zegrep zfgrep zforce zgrep zless zmore znew")

def systemPrograms : List String :=
  words ("add-shell agetty badblocks blkdiscard blkid blkzone blockdev chcpu chgpasswd chmem " ++
    "chpasswd chroot cpgr cppw ctrlaltdel debugfs dumpe2fs e2freefrag e2fsck e2image " ++
    "e2label e2mmpstatus e2scrub e2scrub_all e2undo e4crypt e4defrag faillock filefrag " ++
    "findfs fsck fsck.cramfs fsck.ext2 fsck.ext3 fsck.ext4 fsck.minix fsfreeze fstab-decode " ++
    "fstrim getty groupadd groupdel groupmems groupmod grpck grpconv grpunconv iconvconfig " ++
    "installkernel invoke-rc.d isosize killall5 ldattach ldconfig losetup mke2fs mkfs " ++
    "mkfs.bfs mkfs.cramfs mkfs.ext2 mkfs.ext3 mkfs.ext4 mkfs.minix mkhomedir_helper " ++
    "mklost+found mkswap newusers nologin pam-auth-update pam_extrausers_chkpwd " ++
    "pam_extrausers_update pam_getenv pam_namespace_helper pam_timestamp_check pivot_root " ++
    "pwck pwconv pwhistory_helper pwunconv readprofile remove-shell resize2fs rmt-tar " ++
    "rtcwake runuser service shadowconfig start-stop-daemon sulogin swaplabel swapoff " ++
    "swapon switch_root tarcat tune2fs unix_chkpwd unix_update update-passwd update-rc.d " ++
    "update-shells useradd userdel usermod vigr vipw wipefs zic zramctl")

def linkedPrograms : List (String × String) :=
  [("sh", "dash"), ("awk", "/etc/alternatives/awk"), ("nawk", "/etc/alternatives/nawk"),
   ("which", "/etc/alternatives/which"), ("pager", "/etc/alternatives/pager"), ("rbash", "bash"),
   ("captoinfo", "tic"), ("infotocap", "tic"), ("reset", "tset"),
   ("dnsdomainname", "hostname"), ("domainname", "hostname"), ("nisdomainname", "hostname"),
   ("ypdomainname", "hostname"), ("pkill", "pgrep"), ("lastb", "last"), ("sg", "newgrp"),
   ("linux32", "setarch"), ("linux64", "setarch"), ("i386", "setarch"), ("x86_64", "setarch")]

def programEntry (name : String) : Bytes × Node :=
  match linkedPrograms.lookup name with
  | some target => (ofText name, .link (ofText target))
  | none => (ofText name, .program name)

def folder (name : String) (entries : List (Bytes × Node)) : Bytes × Node :=
  (ofText name, .directory entries 0o755 oldTime)

def folders (names : String) : List (Bytes × Node) := (words names).map fun name => folder name []

def document (name content : String) : Bytes × Node :=
  (ofText name, .file (.fixed (ofText content)) 0o644)

def documents (names : String) : List (Bytes × Node) :=
  (words names).map fun name => document name ""

def link (name target : String) : Bytes × Node := (ofText name, .link (ofText target))

def device (name : String) (d : Device) : Bytes × Node := (ofText name, .device d)

def scratch (name : String) (entries : List (Bytes × Node)) : Bytes × Node :=
  (ofText name, .directory entries 0o1777 oldTime)

def accounts : String :=
  String.join ((words ("root:0:0:root:/root:/bin/bash daemon:1:1:daemon:/usr/sbin: " ++
    "bin:2:2:bin:/bin: sys:3:3:sys:/dev: sync:4:65534:sync:/bin:/bin/sync " ++
    "games:5:60:games:/usr/games: man:6:12:man:/var/cache/man: lp:7:7:lp:/var/spool/lpd: " ++
    "mail:8:8:mail:/var/mail: news:9:9:news:/var/spool/news: uucp:10:10:uucp:/var/spool/uucp: " ++
    "proxy:13:13:proxy:/bin: www-data:33:33:www-data:/var/www: " ++
    "backup:34:34:backup:/var/backups: list:38:38:Mailing_List_Manager:/var/list: " ++
    "irc:39:39:ircd:/run/ircd: _apt:42:65534::/nonexistent: " ++
    "nobody:65534:65534:nobody:/nonexistent:")).map fun entry =>
      let fields := (entry.toList.splitOn ':').map String.ofList
      let shell := fields.getLastD ""
      ":".intercalate ([fields.headD "", "x"] ++ fields.tail.dropLast.map (·.replace "_" " ") ++
        [if shell = "" then "/usr/sbin/nologin" else shell]) ++ "\n")

def groups : String :=
  String.join ((words ("root:0 daemon:1 bin:2 sys:3 adm:4 tty:5 disk:6 lp:7 mail:8 news:9 " ++
    "uucp:10 man:12 proxy:13 kmem:15 dialout:20 fax:21 voice:22 cdrom:24 floppy:25 tape:26 " ++
    "sudo:27 " ++
    "audio:29 dip:30 www-data:33 backup:34 operator:37 list:38 irc:39 src:40 shadow:42 utmp:43 " ++
    "video:44 sasl:45 plugdev:46 staff:50 games:60 users:100 nogroup:65534")).map fun entry =>
      ":x:".intercalate ((entry.toList.splitOn ':').map String.ofList) ++ ":\n")

def configuration : List (Bytes × Node) :=
  [ folder "alternatives" [link "awk" "/usr/bin/mawk", link "nawk" "/usr/bin/mawk",
      link "pager" "/usr/bin/more", link "which" "/usr/bin/which.debianutils"],
    folder "apt" (folders ("apt.conf.d auth.conf.d keyrings preferences.d sources.list.d " ++
      "trusted.gpg.d")),
    folder "dpkg" (folders "dpkg.cfg.d origins"), folder "ssl" (folders "certs private"),
    document "passwd" accounts, document "group" groups,
    document "shells" ("# /etc/shells: valid login shells\n/bin/sh\n/usr/bin/sh\n/bin/bash\n" ++
      "/usr/bin/bash\n/bin/rbash\n/usr/bin/rbash\n/usr/bin/dash\n"),
    document "debian_version" "trixie/sid\n",
    document "host.conf" ("# The \"order\" line is only used by old versions of the C library.\n" ++
      "order hosts,bind\nmulti on\n"),
    document "hosts" "127.0.0.1\tlocalhost\n", document "hostname" "localhost\n",
    document "issue" "Ubuntu 24.04 LTS \\n \\l\n\n",
    document "fstab" "# UNCONFIGURED FSTAB FOR BASE SYSTEM\n",
    link "os-release" "../usr/lib/os-release", link "mtab" "../proc/self/mounts",
    link "localtime" "/usr/share/zoneinfo/Etc/UTC", link "rmt" "/usr/sbin/rmt" ] ++
  folders ("cron.d cron.daily default init.d kernel ld.so.conf.d logrotate.d opt pam.d " ++
    "profile.d rc0.d rc1.d rc2.d rc3.d rc4.d rc5.d rc6.d rcS.d security selinux skel systemd " ++
    "terminfo " ++
    "update-motd.d") ++
  documents ("bash.bashrc bindresvport.blacklist debconf.conf e2scrub.conf environment gai.conf " ++
    "group- gshadow gshadow- issue.net ld.so.cache ld.so.conf legal libaudit.conf login.defs " ++
    "lsb-release machine-id mke2fs.conf networks nsswitch.conf pam.conf passwd- profile " ++
    "protocols " ++
    "resolv.conf rpc services shadow shadow- subgid subuid sysctl.conf timezone xattr.conf")

def devices : List (Bytes × Node) :=
  [ device "null" .null, device "zero" .zeros, device "full" .full, device "random" .random,
    device "urandom" .random, device "tty" .terminal, device "console" .terminal,
    device "ptmx" .terminal, device "stdin" (.stream 0), device "stdout" (.stream 1),
    device "stderr" (.stream 2),
    folder "fd" ((List.range 10).map fun n => device (toString n) (.stream n)),
    link "core" "/proc/kcore", scratch "shm" [], scratch "mqueue" [],
    folder "pts" [device "ptmx" .terminal] ]

def system : List (Bytes × Node) :=
  [ folder "bin" (userPrograms.map programEntry), folder "sbin" (systemPrograms.map programEntry),
    folder "lib" ([
      document "os-release" ("PRETTY_NAME=\"Ubuntu 24.04 LTS\"\nNAME=\"Ubuntu\"\n" ++
        "VERSION_ID=\"24.04\"\nID=ubuntu\nID_LIKE=debian\n"),
      folder "x86_64-linux-gnu" (folders "gconv perl perl-base security")] ++
      folders "apt dpkg gcc init locale lsb mime ssl systemd terminfo tmpfiles.d udev"),
    folder "local" (folders "bin etc games include lib sbin share src" ++ [link "man" "share/man"]),
    folder "share" (
      [folder "zoneinfo" (documents "UTC GMT" ++ [folder "Etc" (documents "UTC GMT")])] ++
      folders ("apport base-files base-passwd bash-completion bug common-licenses debconf " ++
        "debianutils dict doc doc-base dpkg gcc gdb info keyrings libc-bin lintian locale man " ++
        "menu " ++
        "misc pam pam-configs perl perl5 pixmaps polkit-1 sensible-utils tabset terminfo " ++
        "util-linux")) ] ++
  folders "games include lib64 libexec src"

def kernel : List (Bytes × Node) :=
  [ folder "sys" [folder "kernel" [document "ostype" "Linux\n", document "hostname" "localhost\n",
      document "pid_max" "4194304\n"], folder "fs" [], folder "vm" [], folder "net" []],
    folder "self" (folders "fd task" ++ documents "status stat cmdline environ maps mounts"),
    document "version" "Linux version\n", folder "1" (folders "fd task"), folder "net" [] ] ++
  documents ("cmdline cpuinfo devices diskstats filesystems interrupts loadavg meminfo modules " ++
    "mounts partitions stat swaps uptime vmstat")

def workingDirectory : Path := ["tmp", "work"].map ofText

def tree : Node :=
  .directory (
    [ link "bin" "usr/bin", link "sbin" "usr/sbin", link "lib" "usr/lib", link "lib64" "usr/lib64",
      folder "dev" devices, folder "etc" configuration, folder "proc" kernel,
      scratch "tmp" [folder "work" []], folder "usr" system,
      folder "sys" (folders "block bus class dev devices firmware fs kernel module power"),
      folder "var" ([link "run" "/run", link "lock" "/run/lock", scratch "tmp" []] ++
        folders "backups cache lib local log mail opt spool"),
      folder "run" [scratch "lock" []],
      (ofText "root", .directory (documents ".bashrc .profile") 0o700 oldTime) ] ++
      folders "boot home media mnt opt srv") 0o755 oldTime

def initial : Files := ⟨tree, [], 0, 0⟩

end LspRelay.Files
